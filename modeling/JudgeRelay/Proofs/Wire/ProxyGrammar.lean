import JudgeRelay.Proofs.Wire.ProxyRead
import JudgeRelay.Proofs.Net.AddressText
import JudgeRelay.Proofs.Text.Ascii
import JudgeRelay.Proofs.Except

/-!
# The grammar of PROXY headers

What `ProxyHeader.parse` accepts, for all bytes. The bytes must start with a line and the first
line break (`FirstLine`), the two within 107 bytes; and then:

* a TCP header is taken exactly when the line is `PROXY`, `TCP4` or `TCP6`, the source and
  destination addresses of that family, and their ports as decimal numerals up to 65535, the six
  fields separated by single spaces (`TcpLine`);
* an unknown header is taken exactly when the line's first field is `PROXY` and its second is
  `UNKNOWN`, whatever follows (`UnknownLine`);
* any other complete line is refused, as a PROXY header error.

The port test is stricter than reading a number: a numeral with a sign or a leading zero is
refused, so the ports accepted are exactly the numerals `toString n` (`portChecks_iff`).

The header a proxy writes for two addresses of one family and two ports (`tcpText`) reads back
as exactly those addresses, whatever follows it, and fits in the 107 bytes a header may take:
its line has at most 102 characters, as the longest IPv6 text has 39 and a port 5 digits. This rests on the address text reading back
(`IpAddress.parse?_toText`) and being ASCII without spaces.

Main result: `proxy_header_grammar`.
-/

namespace JudgeRelay

namespace ProxyHeader

/-! ## The first line -/

/-- The bytes of a line break, CR LF. -/
def crlf : ByteArray := ⟨#[13, 10]⟩

theorem crlf_size : crlf.size = 2 := rfl

/-- Whether a line break starts somewhere in the bytes. -/
def HasBreak (b : ByteArray) : Prop := ∃ i, i + 1 < b.size ∧ b.get! i = 13 ∧ b.get! (i + 1) = 10

/-- The bytes start with the text `line` and then the first line break, the two taking `n`
bytes, no more than a header may. -/
def FirstLine (b : ByteArray) (line : String) (n : Nat) : Prop :=
  (∃ rest, b = line.toByteArray ++ crlf ++ rest) ∧ ¬HasBreak line.toByteArray ∧
    n = line.utf8ByteSize + 2 ∧ n ≤ maxLength

/-- Bytes that are a line without a line break, a line break and more: the line break is the
first one. -/
theorem lineEnd?_of_line {L R : ByteArray} (noBreak : ¬HasBreak L) :
    lineEnd? (L ++ crlf ++ R) = some L.size := by
  have cr : (L ++ crlf ++ R).get! L.size = 13 := by
    rw [ByteArray.append_assoc, ← Nat.add_zero L.size, get!_append_right,
      get!_append_left (by rw [crlf_size]; omega)]
    rfl
  have lf : (L ++ crlf ++ R).get! (L.size + 1) = 10 := by
    rw [ByteArray.append_assoc, get!_append_right, get!_append_left (by rw [crlf_size]; omega)]
    rfl
  rw [lineEnd?_eq, List.find?_range_eq_some]
  refine ⟨by simp [breakAt, cr, lf],
    List.mem_range.2 (by simp only [ByteArray.size_append, crlf_size]; omega), fun j before => ?_⟩
  by_cases inside : j + 1 < L.size
  · -- a break inside the line would be one of the line's
    rw [ByteArray.append_assoc, breakAt_append inside]
    have notBreak : ¬(L.get! j = 13 ∧ L.get! (j + 1) = 10) := fun both =>
      noBreak ⟨j, inside, both.1, both.2⟩
    simpa [breakAt, Decidable.imp_iff_not_or] using notBreak
  · -- a break at the line's last byte would need an LF where the CR is
    have ends : j + 1 = L.size := by omega
    simp [breakAt, ends, cr]

/-- Where the first line break is, the bytes are the line before it, the break and more, and
the line has no break. -/
theorem line_of_lineEnd? {b : ByteArray} {stop : Nat} (found : lineEnd? b = some stop) :
    b = b.extract 0 stop ++ crlf ++ b.extract (stop + 2) b.size ∧
      ¬HasBreak (b.extract 0 stop) ∧ (b.extract 0 stop).size = stop := by
  have within := lineEnd?_lt found
  rw [lineEnd?_eq, List.find?_range_eq_some] at found
  obtain ⟨brk, -, before⟩ := found
  simp only [breakAt, Bool.and_eq_true, beq_iff_eq] at brk
  have size : (b.extract 0 stop).size = stop := by simp; omega
  -- as lists: the bytes before, the CR and LF, the bytes after
  have split : b = b.extract 0 stop ++ crlf ++ b.extract (stop + 2) b.size := by
    apply ByteArray.ext
    rw [← Array.toList_inj]
    have long : stop + 1 < b.data.toList.length := by simpa using within
    have cr : b.data.toList[stop] = 13 := by
      rw [← brk.1, get!_eq_getD, List.getD_eq_getElem?_getD, List.getElem?_eq_getElem (by omega)]
      rfl
    have lf : b.data.toList[stop + 1] = 10 := by
      rw [← brk.2, get!_eq_getD, List.getD_eq_getElem?_getD, List.getElem?_eq_getElem long]
      rfl
    simp only [ByteArray.data_append, ByteArray.data_extract, Array.toList_append,
      Array.toList_extract, List.extract_eq_take_drop, List.drop_zero, Nat.sub_zero]
    rw [List.take_of_length_le (l := List.drop (stop + 2) _) (by simp)]
    conv => lhs; rw [← List.take_append_drop stop b.data.toList,
      List.drop_eq_getElem_cons (by omega), List.drop_eq_getElem_cons long, cr, lf]
    rw [List.append_assoc]
    rfl
  refine ⟨split, ?_, size⟩
  rintro ⟨i, inside, first, second⟩
  rw [size] at inside
  have same : ∀ k < stop, (b.extract 0 stop).get! k = b.get! k := fun k lt => by
    conv => rhs; rw [split, ByteArray.append_assoc]
    rw [get!_append_left (by rw [size]; exact lt)]
  have := before i (by omega)
  simp [breakAt, ← same i (by omega), ← same (i + 1) inside, first, second] at this

theorem lineEnd?_of_hasBreak {b : ByteArray} (complete : HasBreak b) :
    ∃ stop, lineEnd? b = some stop := by
  rcases found : lineEnd? b with _ | stop
  · obtain ⟨i, inside, first, second⟩ := complete
    rw [lineEnd?_eq, List.find?_range_eq_none] at found
    have := found i (by omega)
    simp [breakAt, first, second] at this
  · exact ⟨stop, rfl⟩

/-- A header is taken exactly when the bytes start with a line and its line break within the
limit, agree with the prefix, and the line reads as that header. -/
theorem parse_eq_some_iff {b : ByteArray} {h : ProxyHeader} {n : Nat} :
    parse b = .ok (some (h, n)) ↔ ∃ line, FirstLine b line n ∧ Opens b ∧ ofLine line = .ok h := by
  constructor
  · intro took
    by_cases good : Opens b
    · rw [parse_of_opens good] at took
      rcases found : lineEnd? b with _ | stop
      · rw [afterPrefix_of_none found] at took
        split at took <;> cases took
      · rw [afterPrefix_of_some found, lineAt] at took
        obtain ⟨split, noBreak, size⟩ := line_of_lineEnd? found
        -- the branches are the length check, the decoding and the reading of the line
        split at took
        · cases took
        · split at took
          · cases took
          · next line decoded =>
            split at took
            · next _ read =>
              cases took
              have bytes := fromUTF8?_eq_some_iff.1 decoded
              refine ⟨line, ⟨⟨_, by rw [bytes]; exact split⟩, by rw [bytes]; exact noBreak,
                by rw [← String.size_toByteArray, bytes, size], by omega⟩, good, read⟩
            · cases took
    · rw [parse_of_not_opens good] at took
      cases took
  · rintro ⟨line, ⟨⟨rest, rfl⟩, noBreak, rfl, within⟩, good, read⟩
    rw [parse_of_opens good, afterPrefix_of_some (lineEnd?_of_line noBreak), lineAt,
      if_neg (by rw [String.size_toByteArray]; omega), ByteArray.append_assoc,
      extract_append_left (Nat.le_refl _), ByteArray.extract_zero_size,
      fromUTF8?_eq_some_iff.2 rfl]
    dsimp only
    rw [read, String.size_toByteArray]

/-- With a complete line, the parser decides: it takes a header or refuses. -/
theorem parse_ne_waits {b : ByteArray} (complete : HasBreak b) : parse b ≠ .ok none := by
  obtain ⟨stop, found⟩ := lineEnd?_of_hasBreak complete
  by_cases good : Opens b
  · rw [parse_of_opens good, afterPrefix_of_some found, lineAt]
    intro waits
    -- every branch of reading the line is a refusal or a header
    split at waits
    · cases waits
    · split at waits
      · cases waits
      · split at waits <;> cases waits
  · rw [parse_of_not_opens good]
    intro waits
    cases waits

theorem opens_prefixBytes : Opens prefixBytes := rfl

theorem prefixBytes_eq : prefixBytes = "PROXY ".toByteArray := rfl

/-- Bytes that start with a line and a line break agree with the prefix exactly when the line
starts with it. -/
theorem opens_iff_line {line : String} {rest : ByteArray} :
    Opens (line.toByteArray ++ crlf ++ rest) ↔ ∃ t, line = "PROXY " ++ t := by
  constructor
  · intro good
    rw [opens_iff] at good
    have bytes : (line.toByteArray ++ crlf ++ rest).data.toList =
        line.toByteArray.data.toList ++ 13 :: 10 :: rest.data.toList := by
      simp only [ByteArray.data_append, Array.toList_append, List.append_assoc]
      rfl
    have size : (line.toByteArray ++ crlf ++ rest).size = line.toByteArray.size + 2 + rest.size := by
      simp only [ByteArray.size_append, crlf_size]
    rw [bytes, size] at good
    -- the CR after the line is not among the prefix's bytes, so the line holds the whole prefix
    have long : 6 ≤ line.toByteArray.size := by
      by_contra short
      have cr : 13 ∈ (line.toByteArray.data.toList ++ 13 :: 10 :: rest.data.toList).take
          (min (line.toByteArray.size + 2 + rest.size) 6) := by
        have length : line.toByteArray.data.toList.length = line.toByteArray.size := by simp
        obtain ⟨k, more⟩ : ∃ k, min (line.toByteArray.size + 2 + rest.size) 6 -
            line.toByteArray.data.toList.length = k + 1 :=
          ⟨_, (Nat.succ_pred_eq_of_pos (by omega)).symm⟩
        rw [List.take_append, List.mem_append, more, List.take_succ_cons]
        exact .inr (List.mem_cons_self ..)
      rw [good] at cr
      exact absurd (List.mem_of_mem_take cr) (by decide)
    rw [Nat.min_eq_right (by omega), List.take_append_of_le_length (by simpa using long),
      show prefixBytes.data.toList.take 6 = prefixBytes.data.toList from rfl] at good
    have starts : line.toByteArray =
        "PROXY ".toByteArray ++ ⟨(line.toByteArray.data.toList.drop 6).toArray⟩ := by
      rw [← prefixBytes_eq]
      apply ByteArray.ext
      rw [← Array.toList_inj, ByteArray.data_append, Array.toList_append, ← good]
      simp
    exact exists_append_of_toByteArray starts
  · rintro ⟨t, rfl⟩
    rw [String.toByteArray_append, ← prefixBytes_eq, ByteArray.append_assoc, ByteArray.append_assoc]
    exact opens_prefixBytes.append (Nat.le_refl _)

/-! ## Ports and addresses -/

/-- A port in decimal: the numeral of a value up to 65535, so with no sign and no leading
zero. -/
def PortText (text : String) (port : UInt16) : Prop :=
  ∃ v ≤ 65535, text = toString v ∧ port = v.toUInt16

/-- An address and its port as a header gives them, of the family it names. -/
def AddressText (ip port : String) (v4 : Bool) (sa : SocketAddress) : Prop :=
  ∃ a p, IpAddress.parse? ip = some a ∧ a.isV4 = v4 ∧ PortText port p ∧ sa = ⟨a, p, 0⟩

/-- The port checks pass exactly on the decimal numerals of the values up to 65535. -/
theorem portChecks_iff (port : String) :
    ((port.isEmpty || port.startsWith "+" || decide (port.length > 1) && port.startsWith "0") =
        false ∧
      ((!port.toList.all fun c => decide ('0' ≤ c ∧ c ≤ '9')) ||
        decide (NumberText.digitsValue port.toList > 65535)) = false) ↔
    ∃ v ≤ 65535, port = toString v := by
  have plus : port.startsWith "+" = true ↔ port.toList.head? = some '+' :=
    startsWith_single_iff (by decide)
  have zero : port.startsWith "0" = true ↔ port.toList.head? = some '0' :=
    startsWith_single_iff (by decide)
  simp only [Bool.or_eq_false_iff, Bool.and_eq_false_imp, Bool.not_eq_false', List.all_eq_true,
    NumberText.decide_digit_eq_isDigit, decide_eq_false_iff_not, decide_eq_true_eq,
    String.isEmpty_eq_false_iff, ne_eq, ← String.length_toList]
  constructor
  · rintro ⟨⟨⟨nonempty, -⟩, noZero⟩, digits, small⟩
    have chars : port.toList ≠ [] := fun none => nonempty (String.toList_inj.1 (by simpa using none))
    -- a leading zero is allowed only alone
    have lone : port.toList.head? = some '0' → port.toList.length = 1 := by
      intro leading
      have short : ¬port.toList.length > 1 := fun long =>
        Bool.false_ne_true ((noZero long).symm.trans (zero.2 leading))
      have : 0 < port.toList.length := List.length_pos_iff.2 chars
      omega
    refine ⟨_, Nat.le_of_not_lt small, String.toList_inj.1 ?_⟩
    rw [NumberText.toList_toString, NumberText.digitsValue_eq,
      NumberText.toDigits_ofDigitChars digits chars lone]
  · rintro ⟨v, small, rfl⟩
    have value := NumberText.digitsValue_toString v
    rw [NumberText.toList_toString] at value ⊢
    have notPlus : (Nat.toDigits 10 v).head? ≠ some '+' := by
      intro leading
      have digit := Nat.isDigit_of_mem_toDigits (by decide) (by decide)
        (List.mem_of_mem_head? leading)
      exact absurd digit (by decide)
    refine ⟨⟨⟨?_, Bool.eq_false_iff.2 fun yes =>
        notPlus (by rw [← NumberText.toList_toString]; exact plus.1 yes)⟩,
      fun long => Bool.eq_false_iff.2 fun leading => ?_⟩,
      fun c member => Nat.isDigit_of_mem_toDigits (by decide) (by decide) member, by omega⟩
    · intro empty
      exact Nat.repr_ne_empty empty
    · rw [zero, NumberText.toList_toString] at leading
      rw [toDigits_head_zero (by decide) leading] at long
      exact absurd long (by decide)

/-- An address is read exactly when its text is an address of the family and its port a
decimal port. -/
theorem address_ok_iff {ip port : String} {v4 : Bool} {sa : SocketAddress} :
    address ip port v4 = .ok sa ↔ AddressText ip port v4 sa := by
  unfold address
  rcases parsed : IpAddress.parse? ip with _ | a
  · refine ⟨nofun, ?_⟩
    rintro ⟨a, p, found, -⟩
    rw [parsed] at found
    cases found
  · dsimp only
    by_cases family : a.isV4 = v4
    · rw [if_neg (by simpa using family)]
      split
      · next shape =>
        refine ⟨nofun, ?_⟩
        rintro ⟨a', p, -, -, ⟨v, small, rfl, -⟩, -⟩
        exact (Bool.false_ne_true
          (((portChecks_iff (toString v)).2 ⟨v, small, rfl⟩).1.symm.trans shape)).elim
      · next shape =>
        split
        · next bad =>
          refine ⟨nofun, ?_⟩
          rintro ⟨a', p, -, -, ⟨v, small, rfl, -⟩, -⟩
          exact (Bool.false_ne_true
            (((portChecks_iff (toString v)).2 ⟨v, small, rfl⟩).2.symm.trans bad)).elim
        · next good =>
          obtain ⟨v, small, text⟩ :=
            (portChecks_iff port).1 ⟨Bool.eq_false_iff.2 shape, Bool.eq_false_iff.2 good⟩
          have value : NumberText.digitsValue port.toList = v := by
            rw [text, NumberText.digitsValue_toString]
          constructor
          · rintro ⟨⟩
            exact ⟨a, _, parsed, family, ⟨v, small, text, by rw [← value]; rfl⟩, rfl⟩
          · rintro ⟨a', p, found, -, ⟨v', -, text', rfl⟩, rfl⟩
            rw [parsed] at found
            cases Option.some.inj found
            show Except.ok (SocketAddress.mk a (NumberText.digitsValue port.toList).toUInt16 0) = _
            rw [text', NumberText.digitsValue_toString]
    · rw [if_pos (by simpa using family)]
      refine ⟨nofun, ?_⟩
      rintro ⟨a', p, found, same, -⟩
      rw [parsed] at found
      cases Option.some.inj found
      exact (family same).elim

/-! ## Reading the line -/

/-- A line is read as a TCP header exactly when it has six fields, the second names a TCP
family, and the addresses and ports are of that family. -/
theorem ofLine_ok_tcp_iff {line : String} {source destination : SocketAddress} :
    ofLine line = .ok (.tcp source destination) ↔
      ∃ first family ip₁ ip₂ p₁ p₂, line.splitOn " " = [first, family, ip₁, ip₂, p₁, p₂] ∧
        (family = "TCP4" ∨ family = "TCP6") ∧
        AddressText ip₁ p₁ (family == "TCP4") source ∧
        AddressText ip₂ p₂ (family == "TCP4") destination := by
  unfold ofLine
  generalize line.splitOn " " = parts
  dsimp only
  constructor
  · intro read
    rcases parts with _ | ⟨first, _ | ⟨family, rest⟩⟩
    · cases read
    · cases read
    · simp only [List.getElem?_cons_succ, List.getElem?_cons_zero] at read
      split at read
      · cases read
      · next family' _ same =>
        cases Option.some.inj same
        split at read
        · next tcp =>
          split at read
          · cases read
          · next six =>
            have four : rest.length = 4 := by simpa using six
            rcases rest with _ | ⟨ip₁, _ | ⟨ip₂, _ | ⟨p₁, _ | ⟨p₂, _ | ⟨_, _⟩⟩⟩⟩⟩ <;>
              simp at four
            obtain ⟨src, readSource, rest⟩ := bind_eq_ok.1 read
            obtain ⟨dst, readDestination, done⟩ := bind_eq_ok.1 rest
            cases done
            exact ⟨first, family, ip₁, ip₂, p₁, p₂, rfl, by simpa using tcp,
              address_ok_iff.1 readSource, address_ok_iff.1 readDestination⟩
        · cases read
      · next none => cases none
  · rintro ⟨first, family, ip₁, ip₂, p₁, p₂, rfl, tcp, source, destination⟩
    simp only [List.getElem?_cons_succ, List.getElem?_cons_zero]
    split
    · next same =>
      cases Option.some.inj same
      simp at tcp
    · next family' _ same =>
      cases Option.some.inj same
      rw [if_pos (by rcases tcp with rfl | rfl <;> rfl), if_neg (by simp)]
      simp only [List.getElem!_cons_succ, List.getElem!_cons_zero, address_ok_iff.2 source,
        address_ok_iff.2 destination]
      rfl
    · next none => cases none

/-- A line is read as an unknown header exactly when its second field is `UNKNOWN`. -/
theorem ofLine_ok_unknown_iff {line : String} :
    ofLine line = .ok .unknown ↔ ∃ first rest, line.splitOn " " = first :: "UNKNOWN" :: rest := by
  unfold ofLine
  generalize line.splitOn " " = parts
  dsimp only
  constructor
  · intro read
    rcases parts with _ | ⟨first, _ | ⟨family, rest⟩⟩
    · cases read
    · cases read
    · simp only [List.getElem?_cons_succ, List.getElem?_cons_zero] at read
      split at read
      · next same =>
        cases Option.some.inj same
        exact ⟨first, rest, rfl⟩
      · -- any other family gives a TCP header or an error
        split at read
        · split at read
          · cases read
          · obtain ⟨src, -, rest⟩ := bind_eq_ok.1 read
            obtain ⟨dst, -, done⟩ := bind_eq_ok.1 rest
            cases done
        · cases read
      · next none => cases none
  · rintro ⟨first, rest, rfl⟩
    rfl

/-! ## The grammar -/

/-- A TCP header line: `PROXY`, the family, the two addresses of that family and their ports,
separated by single spaces. -/
def TcpLine (line : String) (source destination : SocketAddress) : Prop :=
  ∃ family ip₁ ip₂ p₁ p₂, line.splitOn " " = ["PROXY", family, ip₁, ip₂, p₁, p₂] ∧
    (family = "TCP4" ∨ family = "TCP6") ∧
    AddressText ip₁ p₁ (family == "TCP4") source ∧ AddressText ip₂ p₂ (family == "TCP4") destination

/-- The header line of a proxy that could not tell the addresses: `PROXY UNKNOWN`, then
anything. -/
def UnknownLine (line : String) : Prop := ∃ rest, line.splitOn " " = "PROXY" :: "UNKNOWN" :: rest

/-- On a first line, the prefix agrees exactly when the line's first field is `PROXY`, if it
has a second. -/
theorem opens_iff_first {b : ByteArray} {line : String} {n : Nat} (fits : FirstLine b line n)
    {first second : String} {rest : List String} (split : line.splitOn " " = first :: second :: rest) :
    Opens b ↔ first = "PROXY" := by
  obtain ⟨⟨after, rfl⟩, -, -, -⟩ := fits
  rw [opens_iff_line]
  constructor
  · rintro ⟨t, rfl⟩
    rw [show "PROXY " = "PROXY" ++ " " from rfl, splitOn_space_append (by decide)] at split
    exact (List.cons.inj split).1.symm
  · rintro rfl
    exact eq_append_of_splitOn_space split

theorem parse_tcp_iff {b : ByteArray} {source destination : SocketAddress} {n : Nat} :
    parse b = .ok (some (.tcp source destination, n)) ↔
      ∃ line, FirstLine b line n ∧ TcpLine line source destination := by
  rw [parse_eq_some_iff]
  constructor
  · rintro ⟨line, fits, good, read⟩
    obtain ⟨first, family, ip₁, ip₂, p₁, p₂, split, tcp, src, dst⟩ := ofLine_ok_tcp_iff.1 read
    have proxy := (opens_iff_first fits split).1 good
    subst proxy
    exact ⟨line, fits, family, ip₁, ip₂, p₁, p₂, split, tcp, src, dst⟩
  · rintro ⟨line, fits, family, ip₁, ip₂, p₁, p₂, split, tcp, src, dst⟩
    exact ⟨line, fits, (opens_iff_first fits split).2 rfl,
      ofLine_ok_tcp_iff.2 ⟨_, family, ip₁, ip₂, p₁, p₂, split, tcp, src, dst⟩⟩

theorem parse_unknown_iff {b : ByteArray} {n : Nat} :
    parse b = .ok (some (.unknown, n)) ↔ ∃ line, FirstLine b line n ∧ UnknownLine line := by
  rw [parse_eq_some_iff]
  constructor
  · rintro ⟨line, fits, good, read⟩
    obtain ⟨first, rest, split⟩ := ofLine_ok_unknown_iff.1 read
    have proxy := (opens_iff_first fits split).1 good
    subst proxy
    exact ⟨line, fits, rest, split⟩
  · rintro ⟨line, fits, rest, split⟩
    exact ⟨line, fits, (opens_iff_first fits split).2 rfl, ofLine_ok_unknown_iff.2 ⟨_, rest, split⟩⟩

/-- A complete line that is neither header is refused as a PROXY header error. -/
theorem parse_refuses_other {b : ByteArray} (complete : HasBreak b)
    (notTcp : ¬∃ line n source destination, FirstLine b line n ∧ TcpLine line source destination)
    (notUnknown : ¬∃ line n, FirstLine b line n ∧ UnknownLine line) :
    ∃ m, parse b = .error (.proxyHeader m) := by
  rcases parse_cases b with ⟨waits, -⟩ | ⟨h, n, took, -⟩ | refused
  · exact absurd waits (parse_ne_waits complete)
  · cases h with
    | unknown =>
      obtain ⟨line, fits, unknown⟩ := parse_unknown_iff.1 took
      exact absurd ⟨line, n, fits, unknown⟩ notUnknown
    | tcp source destination =>
      obtain ⟨line, fits, tcp⟩ := parse_tcp_iff.1 took
      exact absurd ⟨line, n, source, destination, fits, tcp⟩ notTcp
  · exact refused

/-! ## Writing a header -/

/-- The fields of the header a proxy writes for a TCP connection: `PROXY`, `TCP4` or `TCP6`
after the source's family, the addresses and the ports in decimal. -/
def tcpFields (source destination : IpAddress) (sourcePort destinationPort : UInt16) :
    List String :=
  ["PROXY", if source.isV4 then "TCP4" else "TCP6", source.toText, destination.toText,
    toString sourcePort.toNat, toString destinationPort.toNat]

/-- The header a proxy writes for a TCP connection: its fields separated by single spaces, and a
line break. -/
def tcpText (source destination : IpAddress) (sourcePort destinationPort : UInt16) : String :=
  " ".intercalate (tcpFields source destination sourcePort destinationPort) ++ "\r\n"

/-- Two ASCII characters with the same byte are the same. -/
theorem eq_of_toUInt8_eq {c d : Char} (small : c.toNat < 128) (small' : d.toNat < 128)
    (same : c.val.toUInt8 = d.val.toUInt8) : c = d := by
  have bytes := congrArg UInt8.toNat same
  simp only [UInt32.toNat_toUInt8] at bytes
  have c256 : c.val.toNat < 256 := by simp only [Char.toNat] at small; omega
  have d256 : d.val.toNat < 256 := by simp only [Char.toNat] at small'; omega
  rw [Nat.mod_eq_of_lt c256, Nat.mod_eq_of_lt d256] at bytes
  exact Char.ext (UInt32.toNat_inj.1 bytes)

/-- ASCII text without a CR holds no line break. -/
theorem not_hasBreak_of_ascii {s : String} (ascii : ∀ c ∈ s.toList, c.toNat < 128 ∧ c ≠ '\r') :
    ¬HasBreak s.toByteArray := by
  have bytes : s.toByteArray = (s.toList.map fun c => c.val.toUInt8).toByteArray := by
    simpa using toByteArray_of_ascii (l := s.toList) fun c member => (ascii c member).1
  rintro ⟨i, -, cr, -⟩
  rw [bytes, get!_eq_getD, List.data_toByteArray, List.getD_eq_getElem?_getD, List.getElem?_map] at cr
  rcases found : s.toList[i]? with _ | c
  · rw [found] at cr
    exact absurd cr (by decide)
  · rw [found, Option.map_some, Option.getD_some] at cr
    have member := List.mem_of_getElem? found
    -- the byte 13 of an ASCII character is a CR
    exact (ascii c member).2 (eq_of_toUInt8_eq (ascii c member).1 (by decide) cr)

theorem port_chars (p : UInt16) : ∀ c ∈ (toString p.toNat).toList, AddressChar c := by
  intro c member
  rw [NumberText.toList_toString] at member
  obtain ⟨d, lt, rfl⟩ := mem_toDigits (by decide) member
  exact .inr (.inr ⟨d, by omega, rfl⟩)

theorem length_port (p : UInt16) : (toString p.toNat).length ≤ 5 := by
  rw [← String.length_toList, NumberText.toList_toString]
  exact (Nat.length_toDigits_le_iff (by decide) (by decide)).2 (by have := p.toNat_lt; omega)

/-- The fields a proxy writes are ASCII, without spaces or CRs. -/
theorem tcpFields_chars (source destination : IpAddress) (sourcePort destinationPort : UInt16) :
    ∀ f ∈ tcpFields source destination sourcePort destinationPort, ∀ c ∈ f.toList,
      c.toNat < 128 ∧ c ≠ ' ' ∧ c ≠ '\r' := by
  intro f member
  simp only [tcpFields, List.mem_cons, List.not_mem_nil, or_false] at member
  -- the fixed fields are checked character by character, from their lists
  rcases member with rfl | rfl | rfl | rfl | rfl | rfl
  · simp only [show "PROXY".toList = ['P', 'R', 'O', 'X', 'Y'] by decide, List.forall_mem_cons,
      List.not_mem_nil, false_imp_iff, implies_true, and_true]
    decide
  · split <;> simp only [show "TCP4".toList = ['T', 'C', 'P', '4'] by decide,
      show "TCP6".toList = ['T', 'C', 'P', '6'] by decide, List.forall_mem_cons, List.not_mem_nil,
      false_imp_iff, implies_true, and_true] <;> decide
  · exact fun c inField => (source.toText_chars c inField).ascii
  · exact fun c inField => (destination.toText_chars c inField).ascii
  · exact fun c inField => (port_chars sourcePort c inField).ascii
  · exact fun c inField => (port_chars destinationPort c inField).ascii

/-- The header a proxy writes for two addresses of one family is a first line that reads as a
TCP header of those addresses. -/
theorem tcpText_firstLine {source destination : IpAddress} (sameFamily : source.isV4 = destination.isV4)
    (sourcePort destinationPort : UInt16) (rest : ByteArray) :
    FirstLine ((tcpText source destination sourcePort destinationPort).toByteArray ++ rest)
        (" ".intercalate (tcpFields source destination sourcePort destinationPort))
        (tcpText source destination sourcePort destinationPort).utf8ByteSize ∧
      TcpLine (" ".intercalate (tcpFields source destination sourcePort destinationPort))
        ⟨source, sourcePort, 0⟩ ⟨destination, destinationPort, 0⟩ := by
  have chars := tcpFields_chars source destination sourcePort destinationPort
  have split : (" ".intercalate (tcpFields source destination sourcePort destinationPort)).splitOn " " =
      tcpFields source destination sourcePort destinationPort :=
    splitOn_space_intercalate (by simp [tcpFields]) fun f member space => (chars f member ' ' space).2.1 rfl
  -- the line's characters are those of the fields and the spaces between them
  have lineChars : ∀ c ∈ (" ".intercalate (tcpFields source destination sourcePort destinationPort)).toList,
      c.toNat < 128 ∧ c ≠ '\r' := by
    intro c member
    rcases mem_intercalate_toList member with space | ⟨f, field, inField⟩
    · rw [show " ".toList = [' '] by decide, List.mem_singleton] at space
      subst space
      decide
    · exact ⟨(chars f field c inField).1, (chars f field c inField).2.2⟩
  have length : (" ".intercalate (tcpFields source destination sourcePort destinationPort)).length ≤ 102 := by
    have bounds := And.intro (source.length_toText) (And.intro destination.length_toText
      (And.intro (length_port sourcePort) (length_port destinationPort)))
    have family : (if source.isV4 then "TCP4" else "TCP6").length = 4 := by split <;> rfl
    rw [length_intercalate]
    simp only [tcpFields, List.map_cons, List.map_nil, List.sum_cons, List.sum_nil, List.length_cons,
      List.length_nil, family]
    have : "PROXY".length = 5 := rfl
    have : " ".length = 1 := rfl
    omega
  have family : ∀ a : IpAddress, a.isV4 = source.isV4 →
      a.isV4 = ((if source.isV4 then "TCP4" else "TCP6") == "TCP4") := by
    intro a same
    rw [same]
    cases source.isV4 <;> rfl
  have port : ∀ p : UInt16, PortText (toString p.toNat) p :=
    fun p => ⟨p.toNat, by have := p.toNat_lt; omega, rfl, by simp⟩
  refine ⟨⟨⟨rest, by rw [tcpText, String.toByteArray_append]; rfl⟩, not_hasBreak_of_ascii lineChars, ?_, ?_⟩,
    _, _, _, _, _, split, ?_, ⟨source, sourcePort, source.parse?_toText, family _ rfl, port _, rfl⟩,
      ⟨destination, destinationPort, destination.parse?_toText, family _ sameFamily.symm, port _, rfl⟩⟩
  · rw [tcpText, String.utf8ByteSize_append]
    rfl
  · rw [tcpText, String.utf8ByteSize_append, utf8ByteSize_of_ascii fun c member => (lineChars c member).1]
    simp only [maxLength]
    have : "\r\n".utf8ByteSize = 2 := rfl
    omega
  · cases source.isV4 <;> simp

end ProxyHeader

open ProxyHeader in
/-- The PROXY header grammar. Bytes give a TCP header exactly when they start with a first line,
within 107 bytes, that is `PROXY`, `TCP4` or `TCP6`, two addresses of that family and their
ports in decimal, separated by single spaces; they give an unknown header exactly when that
line's second field is `UNKNOWN`; and any other complete line is refused as a PROXY header
error. The header a proxy writes for two addresses of one family and any ports reads back as
exactly those addresses, whatever follows it, taking its own length, at most 107 bytes. -/
theorem proxy_header_grammar :
    (∀ b source destination n, parse b = .ok (some (.tcp source destination, n)) ↔
      ∃ line, FirstLine b line n ∧ TcpLine line source destination) ∧
    (∀ b n, parse b = .ok (some (.unknown, n)) ↔ ∃ line, FirstLine b line n ∧ UnknownLine line) ∧
    (∀ b, HasBreak b →
      (¬∃ line n source destination, FirstLine b line n ∧ TcpLine line source destination) →
      (¬∃ line n, FirstLine b line n ∧ UnknownLine line) →
      ∃ m, parse b = .error (.proxyHeader m)) ∧
    (∀ (source destination : IpAddress) (sourcePort destinationPort : UInt16) (rest : ByteArray),
      source.isV4 = destination.isV4 →
      parse ((tcpText source destination sourcePort destinationPort).toByteArray ++ rest) =
        .ok (some (.tcp ⟨source, sourcePort, 0⟩ ⟨destination, destinationPort, 0⟩,
          (tcpText source destination sourcePort destinationPort).utf8ByteSize)) ∧
      (tcpText source destination sourcePort destinationPort).utf8ByteSize ≤ maxLength) := by
  refine ⟨fun _ _ _ _ => parse_tcp_iff, fun _ _ => parse_unknown_iff,
    fun _ complete notTcp notUnknown => parse_refuses_other complete notTcp notUnknown,
    fun source destination sourcePort destinationPort rest sameFamily => ?_⟩
  obtain ⟨fits, tcp⟩ := tcpText_firstLine sameFamily sourcePort destinationPort rest
  exact ⟨parse_tcp_iff.2 ⟨_, fits, tcp⟩, fits.2.2.2⟩

open ProxyHeader in
/-- The grammar on a short line without the prefix, refused, and on the header for two
all-ones IPv6 addresses and the largest ports, the longest a proxy writes, read back. -/
theorem proxy_header_grammar_instances :
    (∃ m, parse ⟨#[80, 82, 88, 13, 10]⟩ = .error (.proxyHeader m)) ∧
    let top : IpAddress := .v6 ⟨Vector.replicate 8 0xffff⟩
    parse ((tcpText top top 65535 65535).toByteArray ++ .empty) =
        .ok (some (.tcp ⟨top, 65535, 0⟩ ⟨top, 65535, 0⟩, (tcpText top top 65535 65535).utf8ByteSize)) ∧
      (tcpText top top 65535 65535).utf8ByteSize ≤ maxLength := by
  have grammar := proxy_header_grammar
  have refused : parse ⟨#[80, 82, 88, 13, 10]⟩ = .error (.proxyHeader "missing PROXY prefix") :=
    parse_of_not_opens fun good => absurd (congrArg (fun b => b.data.toList) good) (by decide)
  refine ⟨grammar.2.2.1 _ ⟨3, by decide, rfl, rfl⟩ ?_ ?_, grammar.2.2.2 _ _ 65535 65535 .empty rfl⟩
  · rintro ⟨line, n, source, destination, fits, tcp⟩
    have took := (grammar.1 _ source destination n).2 ⟨line, fits, tcp⟩
    rw [refused] at took
    cases took
  · rintro ⟨line, n, fits, unknown⟩
    have took := (grammar.2.1 _ n).2 ⟨line, fits, unknown⟩
    rw [refused] at took
    cases took

end JudgeRelay
