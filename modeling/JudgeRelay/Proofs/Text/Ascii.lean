import Mathlib
import JudgeRelay.Number.Parse

/-!
# ASCII text: fields, bytes and numerals

The line formats of the relay are ASCII text: fields separated by single spaces, numbers in
decimal. This module holds what their proofs need of such text.

* Splitting at a space is splitting the characters (`splitOn_space`), so fields without a
  space, joined by spaces, split back into themselves (`splitOn_space_intercalate`), and the
  first field of a line is followed by a space in it (`eq_append_of_splitOn_space`). Joined
  fields hold the separator's characters and theirs (`mem_intercalate_toList`), and their
  lengths and a separator between each two (`length_intercalate`).
* ASCII text is encoded one byte per character (`toByteArray_of_ascii`), and bytes decode to a
  text exactly when they are its encoding (`fromUTF8?_eq_some_iff`); text whose encoding
  starts with another text's encoding starts with that text (`exists_append_of_toByteArray`).
* Digits without a leading zero are the decimal numeral of their value
  (`NumberText.toDigits_ofDigitChars`), and a numeral reads back as its value
  (`NumberText.digitsValue_toString`).
-/

namespace JudgeRelay

open String

/-! ## Fields split at a space -/

/-- The split of a text at spaces, from a position after the characters `l` and the part `m` of
a field read so far: the fields left are those of the characters `r` still to read, the first
one extended by `m`. -/
theorem splitOnAux_space_of_valid (l m r : List Char) (acc : List String) :
    splitOnAux (ofList (l ++ m ++ r)) " " ⟨utf8Len l⟩ ⟨utf8Len l + utf8Len m⟩ 0 acc =
      acc.reverse ++ (List.splitOnPPrepend (· == ' ') r m.reverse).map ofList := by
  induction r generalizing l m acc with
  | nil =>
    unfold splitOnAux
    rw [if_pos (by simp only [atEnd_iff, rawEndPos_ofList, utf8Len_append, Pos.Raw.mk_le_mk,
      utf8Len_nil]; omega)]
    simpa using extract_of_valid l m []
  | cons c r ih =>
    unfold splitOnAux
    rw [if_neg (by simp only [atEnd_iff, rawEndPos_ofList, utf8Len_append, Pos.Raw.mk_le_mk,
      utf8Len_cons]; have := c.utf8Size_pos; omega)]
    have getc : Pos.Raw.get (ofList (l ++ m ++ c :: r)) ⟨utf8Len l + utf8Len m⟩ = c := by
      simpa using get_of_valid (l ++ m) (c :: r)
    have nextc : Pos.Raw.next (ofList (l ++ m ++ c :: r)) ⟨utf8Len l + utf8Len m⟩ =
        ⟨utf8Len l + utf8Len m + c.utf8Size⟩ := by
      simpa using next_of_valid (l ++ m) c r
    have unshifted : (⟨utf8Len l + utf8Len m⟩ : Pos.Raw).unoffsetBy 0 = ⟨utf8Len l + utf8Len m⟩ :=
      Pos.Raw.ext (Nat.sub_zero _)
    rw [getc, nextc, unshifted, nextc, show Pos.Raw.get " " 0 = ' ' from rfl,
      show Pos.Raw.next " " 0 = ⟨1⟩ from rfl, if_pos (show Pos.Raw.atEnd " " ⟨1⟩ = true from rfl),
      List.splitOnPPrepend_cons_eq_if]
    by_cases space : c = ' '
    · -- a space ends the field read so far
      subst space
      have back : (⟨utf8Len l + utf8Len m + ' '.utf8Size⟩ : Pos.Raw).unoffsetBy ⟨1⟩ =
          ⟨utf8Len l + utf8Len m⟩ := Pos.Raw.ext (by simp [Pos.Raw.byteIdx_unoffsetBy]; rfl)
      have cut : Pos.Raw.extract (ofList (l ++ m ++ ' ' :: r)) ⟨utf8Len l⟩ ⟨utf8Len l + utf8Len m⟩ =
          ofList m := by
        simpa using extract_of_valid l m (' ' :: r)
      have rest := ih (l ++ m ++ [' ']) [] (ofList m :: acc)
      simp only [List.append_nil, List.append_assoc, List.singleton_append, utf8Len_append,
        utf8Len_cons, utf8Len_nil, Nat.zero_add, List.reverse_nil] at rest
      rw [if_pos (beq_self_eq_true ' '), if_pos (beq_self_eq_true ' '), back, cut,
        List.reverse_reverse, List.map_cons]
      rw [show l ++ (m ++ ' ' :: r) = l ++ m ++ ' ' :: r by simp,
        show utf8Len l + (utf8Len m + ' '.utf8Size) = utf8Len l + utf8Len m + ' '.utf8Size by omega,
        Nat.add_zero] at rest
      rw [rest, List.reverse_cons, List.append_assoc]
      rfl
    · -- any other character joins the field
      have rest := ih l (m ++ [c]) acc
      simp only [List.append_assoc, List.singleton_append, utf8Len_append, utf8Len_cons,
        utf8Len_nil, Nat.zero_add, List.reverse_append, List.reverse_singleton,
        List.singleton_append] at rest
      rw [if_neg (by simpa using space), if_neg (by simpa using space)]
      simpa [Nat.add_assoc] using rest

/-- Splitting a text at spaces splits its characters. -/
theorem splitOn_space (s : String) : s.splitOn " " = (s.toList.splitOn ' ').map ofList := by
  have whole := splitOnAux_space_of_valid [] [] s.toList []
  simp only [List.nil_append, utf8Len_nil, Nat.add_zero, List.reverse_nil, List.nil_append,
    ofList_toList] at whole
  unfold splitOn
  rw [if_neg (by decide)]
  exact whole

/-- Fields without a space, joined by single spaces, split back into themselves. -/
theorem splitOn_space_intercalate {fields : List String} (nonempty : fields ≠ [])
    (noSpace : ∀ f ∈ fields, ' ' ∉ f.toList) : (" ".intercalate fields).splitOn " " = fields := by
  have apart : ∀ l ∈ fields.map String.toList, ' ' ∉ l := by
    intro l member
    obtain ⟨f, field, rfl⟩ := List.mem_map.1 member
    exact noSpace f field
  rw [splitOn_space, toList_intercalate, show " ".toList = [' '] from rfl,
    List.splitOn_intercalate ' ' apart (by simpa using nonempty), List.map_map]
  conv => rhs; rw [← List.map_id fields]
  exact List.map_congr_left fun f _ => ofList_toList

/-- A line whose split at spaces has two fields or more starts with its first field and a
space. -/
theorem eq_append_of_splitOn_space {line first second : String} {rest : List String}
    (split : line.splitOn " " = first :: second :: rest) : ∃ t, line = first ++ " " ++ t := by
  have chars : [' '].intercalate (line.toList.splitOn ' ') = line.toList := List.intercalate_splitOn ' '
  rw [splitOn_space] at split
  rcases fields : line.toList.splitOn ' ' with _ | ⟨f, _ | ⟨g, gs⟩⟩
  · exact absurd (fields ▸ split) (by simp)
  · exact absurd (fields ▸ split) (by simp)
  · rw [fields, List.map_cons, List.map_cons, List.cons.injEq] at split
    rw [fields, List.intercalate_cons_cons] at chars
    refine ⟨ofList ([' '].intercalate (g :: gs)), String.toList_injective ?_⟩
    rw [← split.1]
    simpa using chars.symm

/-- A field without a space, then a space and more text: the field comes first in the split. -/
theorem splitOn_space_append {first : String} (noSpace : ' ' ∉ first.toList) (t : String) :
    (first ++ " " ++ t).splitOn " " = first :: t.splitOn " " := by
  rw [splitOn_space, splitOn_space, toList_append, toList_append,
    show " ".toList = [' '] from rfl, List.append_assoc, List.singleton_append,
    List.splitOn_append_cons_self_of_not_mem noSpace, List.map_cons, ofList_toList]

/-- A character of fields joined by a separator is the separator's or a field's. -/
theorem mem_intercalate_toList {sep : String} :
    ∀ {fields : List String} {c : Char}, c ∈ (sep.intercalate fields).toList →
      c ∈ sep.toList ∨ ∃ f ∈ fields, c ∈ f.toList
  | [], _, member => by simp at member
  | [f], _, member => .inr ⟨f, List.mem_singleton_self f, by simpa using member⟩
  | f :: g :: rest, _, member => by
    rw [String.intercalate_cons_cons, String.toList_append, String.toList_append, List.mem_append,
      List.mem_append] at member
    rcases member with (inField | inSep) | inRest
    · exact .inr ⟨f, List.mem_cons_self .., inField⟩
    · exact .inl inSep
    · rcases mem_intercalate_toList inRest with inSep | ⟨h, member, inH⟩
      · exact .inl inSep
      · exact .inr ⟨h, List.mem_cons_of_mem _ member, inH⟩

/-- Fields joined by a separator: their lengths and one separator between each two. -/
theorem length_intercalate (sep : String) :
    ∀ fields : List String,
      (sep.intercalate fields).length = (fields.map String.length).sum + sep.length * (fields.length - 1)
  | [] => rfl
  | [f] => by simp
  | f :: g :: rest => by
    rw [String.intercalate_cons_cons, String.length_append, String.length_append,
      length_intercalate sep (g :: rest)]
    simp only [List.map_cons, List.sum_cons, List.length_cons, Nat.add_sub_cancel, Nat.mul_add]
    omega

theorem singleton_prefix_iff {l : List Char} {c : Char} : [c] <+: l ↔ l.head? = some c := by
  rcases l with _ | ⟨d, ds⟩
  · simp
  · simp [List.cons_prefix_cons, eq_comm]

/-- Text starts with a one-character text exactly when its first character is that one. -/
theorem startsWith_single_iff {s p : String} {c : Char} (single : p.toList = [c]) :
    s.startsWith p = true ↔ s.toList.head? = some c := by
  rw [String.startsWith_string_iff, single, singleton_prefix_iff]

/-! ## Bytes -/

theorem utf8Size_of_ascii {c : Char} (ascii : c.toNat < 128) : c.utf8Size = 1 := by
  have small : c.val.toNat < 128 := ascii
  rw [Char.utf8Size_eq_one_iff]
  exact UInt32.le_iff_toNat_le.2 (by simp; omega)

/-- ASCII characters are encoded one byte each. -/
theorem toByteArray_of_ascii {l : List Char} (ascii : ∀ c ∈ l, c.toNat < 128) :
    (ofList l).toByteArray = (l.map fun c => c.val.toUInt8).toByteArray := by
  rw [toByteArray_ofList, List.utf8Encode]
  congr 1
  induction l with
  | nil => rfl
  | cons c cs ih =>
    rw [List.flatMap_cons, List.map_cons, ih fun d member => ascii d (List.mem_cons_of_mem _ member),
      utf8EncodeChar_eq_singleton (utf8Size_of_ascii (ascii c (List.mem_cons_self ..)))]
    rfl

/-- ASCII text takes a byte per character. -/
theorem utf8ByteSize_of_ascii {s : String} (ascii : ∀ c ∈ s.toList, c.toNat < 128) :
    s.utf8ByteSize = s.length := by
  rw [← size_toByteArray, ← ofList_toList (s := s), toByteArray_of_ascii (by simpa using ascii),
    List.size_toByteArray, List.length_map, length_ofList]

/-- Bytes decode to a text exactly when they are its encoding. -/
theorem fromUTF8?_eq_some_iff {b : ByteArray} {s : String} :
    String.fromUTF8? b = some s ↔ s.toByteArray = b := by
  unfold String.fromUTF8?
  split
  · next valid =>
    refine ⟨fun decoded => ?_, fun encoded => ?_⟩
    · cases Option.some.inj decoded
      rfl
    · subst encoded
      rfl
  · next invalid =>
    refine ⟨(fun decoded => nomatch decoded), fun encoded => absurd (encoded ▸ s.isValidUTF8) invalid⟩

/-- A text whose encoding starts with another text's encoding starts with that text. -/
theorem exists_append_of_toByteArray {s p : String} {rest : ByteArray}
    (starts : s.toByteArray = p.toByteArray ++ rest) : ∃ t, s = p ++ t := by
  have encoded : p.toList.utf8Encode ++ rest = s.toList.utf8Encode := by
    rw [utf8Encode_toList, utf8Encode_toList, starts]
  obtain ⟨t, chars⟩ := List.isPrefix_of_utf8Encode_append_eq_utf8Encode rest encoded
  exact ⟨ofList t, toList_injective (by simpa using chars.symm)⟩

/-! ## Decimal numerals -/

namespace NumberText

theorem digitsValue_eq (cs : List Char) : digitsValue cs = Nat.ofDigitChars 10 cs 0 := by
  unfold digitsValue Nat.ofDigitChars
  congr 1
  funext acc c
  rw [Nat.mul_comm]

/-- Decimal numerals name their numbers. -/
theorem natRepr_injective {a b : Nat} (same : a.repr = b.repr) : a = b := by
  have digits := congrArg (fun s : String => Nat.ofDigitChars 10 s.toList 0) same
  simpa only [Nat.toList_repr, Nat.ofDigitChars_ten_toDigits] using digits

theorem isDigit_iff (c : Char) : isDigit c = c.isDigit := by
  simp [isDigit, Char.isDigit, Char.le_def]

theorem decide_digit_eq_isDigit (c : Char) : decide ('0' ≤ c ∧ c ≤ '9') = c.isDigit := by
  simp [Char.isDigit, Char.le_def]

theorem toList_toString (v : Nat) : (toString v).toList = Nat.toDigits 10 v := Nat.toList_repr

theorem digitsValue_toString (v : Nat) : digitsValue (toString v).toList = v := by
  rw [toList_toString, digitsValue_eq, Nat.ofDigitChars_ten_toDigits]

/-- A digit is the digit of its value. -/
theorem digitChar_of_isDigit {c : Char} (digit : c.isDigit) :
    c.toNat - '0'.toNat < 10 ∧ Nat.digitChar (c.toNat - '0'.toNat) = c := by
  simp only [Char.isDigit, Bool.and_eq_true, decide_eq_true_eq] at digit
  have low : 48 ≤ c.toNat := digit.1
  have high : c.toNat ≤ 57 := digit.2
  have zero : '0'.toNat = 48 := rfl
  rw [zero]
  refine ⟨by omega, Char.ext ?_⟩
  have : (c.toNat - 48).digitChar.toNat = 48 + (c.toNat - 48) :=
    Nat.toNat_digitChar_of_lt_ten (by omega)
  simp only [Char.toNat] at this low high ⊢
  apply UInt32.toNat_inj.1
  omega

/-- Reading digits after a positive value appends them to its numeral. -/
theorem toDigits_ofDigitChars_of_pos {ds : List Char} (digits : ∀ c ∈ ds, c.isDigit) {init : Nat}
    (positive : 0 < init) :
    Nat.toDigits 10 (Nat.ofDigitChars 10 ds init) = Nat.toDigits 10 init ++ ds := by
  induction ds generalizing init with
  | nil => simp
  | cons c cs ih =>
    obtain ⟨small, same⟩ := digitChar_of_isDigit (digits c (List.mem_cons_self ..))
    rw [Nat.ofDigitChars_cons, ih (fun d member => digits d (List.mem_cons_of_mem _ member))
      (by omega), ← Nat.toDigits_append_toDigits (by decide) positive small,
      Nat.toDigits_of_lt_base small, same]
    simp

/-- Digits without a leading zero (a lone zero apart) are the decimal numeral of their value. -/
theorem toDigits_ofDigitChars {ds : List Char} (digits : ∀ c ∈ ds, c.isDigit) (nonempty : ds ≠ [])
    (noZero : ds.head? = some '0' → ds.length = 1) :
    Nat.toDigits 10 (Nat.ofDigitChars 10 ds 0) = ds := by
  obtain ⟨c, cs, rfl⟩ := List.exists_cons_of_ne_nil nonempty
  obtain ⟨small, same⟩ := digitChar_of_isDigit (digits c (List.mem_cons_self ..))
  by_cases zero : c = '0'
  · -- a lone zero
    have lone : cs = [] := by simpa using noZero (by rw [zero]; rfl)
    subst zero lone
    rfl
  · have positive : 0 < c.toNat - '0'.toNat := by
      refine Nat.pos_of_ne_zero fun none => zero ?_
      rw [← same, none]
      rfl
    rw [Nat.ofDigitChars_cons, Nat.mul_zero, Nat.zero_add,
      toDigits_ofDigitChars_of_pos (fun d member => digits d (List.mem_cons_of_mem _ member))
        positive, Nat.toDigits_of_lt_base small, same]
    rfl

end NumberText

end JudgeRelay
