import JudgeRelay.Net.Address
import Mathlib.Logic.Basic

/-!
# What the address readers do on given text

Equations for running the readers of `Scan` on text of a known shape, so that the proofs about
address text never unfold a reader.

* A reader fails by giving nothing back (`run_failure`); an alternative tries the second reader
  from where the first started (`run_orElse`), and `optional` always succeeds (`run_optional`).
* `number` reads exactly the digits before a non-digit (`run_number_of_digits`) when they are
  few enough, small enough and without a forbidden leading zero; it fails on a non-digit
  (`run_number_of_nondigit`); and whatever it reads, it leaves the text after the digits
  (`run_number_rest`). On numerals this gives `run_octet` and `run_hexGroup`.
* `ipv4` reads back the text of every IPv4 address (`run_ipv4_text`) and fails on text whose
  first number is not followed by a dot (`run_ipv4_of_no_dot`).
* `groups` reads one group at a time (`run_groups_group`), stops at a double colon or at the
  end (`run_groups_colons`, `run_groups_end`), and ends on an IPv4 address (`run_groups_v4`);
  `ipv6` is then read through `run_ipv6_full` and `run_ipv6_compressed`.
-/

namespace JudgeRelay

/-! ## Numerals -/

theorem mem_toDigits {b n : Nat} {c : Char} (hb : 1 < b) (member : c ∈ Nat.toDigits b n) :
    ∃ d < b, c = Nat.digitChar d := by
  induction n using Nat.strongRecOn with
  | ind n ih =>
    rw [Nat.toDigits_eq_if hb] at member
    split at member
    · next small => exact ⟨n, small, List.mem_singleton.1 member⟩
    · next large =>
      rcases List.mem_append.1 member with front | last
      · exact ih (n / b) (Nat.div_lt_self (by omega) hb) front
      · exact ⟨n % b, Nat.mod_lt _ (by omega), List.mem_singleton.1 last⟩

/-- Reading the digits of a numeral, with any reading of digits that inverts `Nat.digitChar`,
gives its value. -/
theorem foldl_toDigits {b n : Nat} (hb : 1 < b) {value : Char → Nat}
    (digit : ∀ d < b, value (Nat.digitChar d) = d) :
    (Nat.toDigits b n).foldl (fun acc c => acc * b + value c) 0 = n := by
  induction n using Nat.strongRecOn with
  | ind n ih =>
    rw [Nat.toDigits_eq_if hb]
    split
    · next small => simp [digit n small]
    · next large =>
      rw [List.foldl_append, ih (n / b) (Nat.div_lt_self (by omega) hb), List.foldl_cons,
        List.foldl_nil, digit _ (Nat.mod_lt _ (by omega)), Nat.mul_comm, Nat.div_add_mod]

/-- Only the numeral of zero starts with a zero. -/
theorem toDigits_head_zero {b n : Nat} (hb : 1 < b) (zero : (Nat.toDigits b n).head? = some '0') :
    n = 0 := by
  induction n using Nat.strongRecOn with
  | ind n ih =>
    rw [Nat.toDigits_eq_if hb] at zero
    split at zero
    · simpa using zero
    · next large =>
      rcases digits : Nat.toDigits b (n / b) with _ | ⟨c, cs⟩
      · exact absurd digits Nat.toDigits_ne_nil
      · rw [digits] at zero
        have := ih (n / b) (Nat.div_lt_self (by omega) hb) (by rw [digits]; exact zero)
        have := Nat.div_pos (Nat.le_of_not_lt large) (by omega)
        omega

theorem head_dropWhile_mem {α : Type} {p : α → Bool} {l : List α} {c : α}
    (found : (l.dropWhile p).head? = some c) : c ∈ l :=
  (List.dropWhile_suffix p).subset (List.mem_of_mem_head? found)

theorem drop_takeWhile_length {α : Type} (p : α → Bool) (l : List α) :
    l.drop (l.takeWhile p).length = l.dropWhile p := by
  have whole := List.takeWhile_append_dropWhile (p := p) (l := l)
  calc l.drop (l.takeWhile p).length
      = (l.takeWhile p ++ l.dropWhile p).drop (l.takeWhile p).length := by rw [whole]
    _ = l.dropWhile p := List.drop_left' rfl

namespace Ipv4

/-- The text of an IPv4 address: its four octets in decimal, between dots. -/
theorem toText_toList (a : Ipv4) : ∃ o₀ o₁ o₂ o₃ : UInt8, a = ⟨#v[o₀, o₁, o₂, o₃]⟩ ∧
    a.toText.toList = Nat.toDigits 10 o₀.toNat ++ '.' :: Nat.toDigits 10 o₁.toNat ++
      '.' :: Nat.toDigits 10 o₂.toNat ++ '.' :: Nat.toDigits 10 o₃.toNat := by
  obtain ⟨⟨⟨l⟩, size⟩⟩ := a
  rcases l with _ | ⟨o₀, _ | ⟨o₁, _ | ⟨o₂, _ | ⟨o₃, _ | ⟨_, _⟩⟩⟩⟩⟩ <;> simp at size
  refine ⟨o₀, o₁, o₂, o₃, rfl, ?_⟩
  simp [toText]

end Ipv4

namespace Scan

/-! ## Running readers -/

theorem run_failure {α : Type} (cs : List Char) : (failure : Scan α).run cs = none := rfl

theorem run_orElse {α : Type} (p q : Scan α) (cs : List Char) :
    (p <|> q).run cs = (p.run cs).or (q.run cs) := by
  show (p.run cs <|> q.run cs) = _
  cases p.run cs <;> rfl

theorem run_optional {α : Type} (p : Scan α) (cs : List Char) :
    (optional p).run cs = some (match p.run cs with
      | some (a, rest) => (some a, rest)
      | none => (none, cs)) := by
  show ((some <$> p) <|> pure none).run cs = _
  rw [run_orElse]
  rcases found : p.run cs with _ | ⟨a, rest⟩
  · simp [StateT.run_map, found]
  · simp [StateT.run_map, found]

theorem run_char (c d : Char) (rest : List Char) :
    (char c).run (d :: rest) = if d = c then some ((), rest) else none := by
  -- the reader looks at the first character and sets the rest, or fails
  have step : (char c).run (d :: rest) =
      (if d = c then set rest else failure : Scan Unit).run (d :: rest) := rfl
  rw [step]
  by_cases same : d = c
  · rewrite [if_pos same, if_pos same]
    rfl
  · rw [if_neg same, if_neg same, run_failure]

theorem run_char_nil (c : Char) : (char c).run [] = none := rfl

theorem run_separated_zero {α : Type} (sep : Char) (p : Scan α) (cs : List Char) :
    (separated sep 0 p).run cs = p.run cs := rfl

theorem run_separated_succ {α : Type} (sep : Char) (k : Nat) (p : Scan α) (cs : List Char) :
    (separated sep (k + 1) p).run (sep :: cs) = p.run cs := by
  simp [separated, run_char, seqRight_eq_bind, StateT.run_bind]

theorem run_separated_succ_nil {α : Type} (sep : Char) (k : Nat) (p : Scan α) :
    (separated sep (k + 1) p).run [] = none := by
  simp [separated, run_char_nil, seqRight_eq_bind, StateT.run_bind]

/-- A separated reader fails on a double colon when its reader fails on a colon. -/
theorem run_separated_colons {α : Type} {p : Scan α} (fails : ∀ cs, p.run (':' :: cs) = none)
    (index : Nat) (cs : List Char) : (separated ':' index p).run (':' :: ':' :: cs) = none := by
  cases index with
  | zero => exact fails _
  | succ k => rw [run_separated_succ]; exact fails _

/-! ## Numbers -/

theorem takeWhile_digits {p : Char → Bool} {ds rest : List Char} (digits : ∀ c ∈ ds, p c = true)
    (stop : ∀ c ∈ rest.head?, p c = false) : (ds ++ rest).takeWhile p = ds := by
  rw [List.takeWhile_append_of_pos digits]
  cases rest with
  | nil => simp
  | cons c rest => simp [stop c rfl]

/-- Digits before a non-digit are read as their value, when the reader's bounds allow them. -/
theorem run_number_of_digits {radix : Nat} {maxDigits : Option Nat} {zeroPrefix : Bool}
    {limit : Nat} {ds rest : List Char} (digits : ∀ c ∈ ds, (digitValue radix c).isSome = true)
    (stop : ∀ c ∈ rest.head?, (digitValue radix c).isSome = false) (nonempty : ds ≠ [])
    (few : ∀ m, maxDigits = some m → ds.length ≤ m)
    (within : ds.foldl (fun acc c => acc * radix + (digitValue radix c).getD 0) 0 ≤ limit)
    (noZero : zeroPrefix = false → ds.head? = some '0' → ds.length ≤ 1) :
    (number radix maxDigits zeroPrefix limit).run (ds ++ rest) =
      some (ds.foldl (fun acc c => acc * radix + (digitValue radix c).getD 0) 0, rest) := by
  have taken := takeWhile_digits digits stop
  have short : ∀ m, maxDigits = some m → ¬ds.length > m := fun m given => by
    have := few m given
    omega
  have small : ¬ds.foldl (fun acc c => acc * radix + (digitValue radix c).getD 0) 0 > limit := by
    omega
  simp only [number, StateT.run_bind, StateT.run_get, pure_bind, taken]
  rw [if_neg]
  · simp [StateT.run_set, List.drop_left']
  · cases maxDigits with
    | none => cases zeroPrefix <;> simp_all
    | some m => cases zeroPrefix <;> simp_all

theorem run_number_of_nondigit {radix : Nat} {maxDigits : Option Nat} {zeroPrefix : Bool}
    {limit : Nat} {cs : List Char} (stop : ∀ c ∈ cs.head?, (digitValue radix c).isSome = false) :
    (number radix maxDigits zeroPrefix limit).run cs = none := by
  have taken : cs.takeWhile (fun c => (digitValue radix c).isSome) = [] :=
    takeWhile_digits (fun c (member : c ∈ ([] : List Char)) => nomatch member) stop
  simp only [number, StateT.run_bind, StateT.run_get, pure_bind, taken]
  rfl

/-- Whatever a number reader reads, it leaves the text after the digits. -/
theorem run_number_rest {radix : Nat} {maxDigits : Option Nat} {zeroPrefix : Bool} {limit : Nat}
    {cs cs' : List Char} {v : Nat}
    (read : (number radix maxDigits zeroPrefix limit).run cs = some (v, cs')) :
    cs' = cs.dropWhile fun c => (digitValue radix c).isSome := by
  -- with the bound on digits fixed, the only branch left is the test of the digits read
  cases maxDigits <;>
  · simp only [number, StateT.run_bind, StateT.run_get, pure_bind] at read
    split at read
    · cases read
    · simp only [StateT.run_bind, StateT.run_set, StateT.run_pure, Option.pure_def,
        Option.bind_eq_bind, Option.bind_some, Option.some.injEq, Prod.mk.injEq] at read
      rw [← read.2, drop_takeWhile_length]

theorem digitValue_hex : ∀ d < 16, digitValue 16 (Nat.digitChar d) = some d := by decide

theorem digitValue_decimal : ∀ d < 10, digitValue 10 (Nat.digitChar d) = some d := by decide

theorem run_octet {o : Nat} (small : o ≤ 255) {rest : List Char}
    (stop : ∀ c ∈ rest.head?, (digitValue 10 c).isSome = false) :
    (number 10 (some 3) false 255).run (Nat.toDigits 10 o ++ rest) = some (o, rest) := by
  have value : (Nat.toDigits 10 o).foldl (fun acc c => acc * 10 + (digitValue 10 c).getD 0) 0 = o :=
    foldl_toDigits (by decide) fun d lt => by rw [digitValue_decimal d lt]; rfl
  have digits : ∀ c ∈ Nat.toDigits 10 o, (digitValue 10 c).isSome = true := by
    intro c member
    obtain ⟨d, lt, rfl⟩ := mem_toDigits (by decide) member
    rw [digitValue_decimal d lt]
    rfl
  have few : ∀ m, some 3 = some m → (Nat.toDigits 10 o).length ≤ m := by
    intro m same
    cases same
    exact (Nat.length_toDigits_le_iff (by decide) (by decide)).2 (by omega)
  have noZero : false = false → (Nat.toDigits 10 o).head? = some '0' →
      (Nat.toDigits 10 o).length ≤ 1 := by
    intro _ leading
    rw [toDigits_head_zero (by decide) leading]
    decide
  rw [run_number_of_digits digits stop Nat.toDigits_ne_nil few (by rw [value]; exact small) noZero,
    value]

theorem run_hexGroup {g : Nat} (small : g ≤ 65535) {rest : List Char}
    (stop : ∀ c ∈ rest.head?, (digitValue 16 c).isSome = false) :
    (number 16 (some 4) true 65535).run (Nat.toDigits 16 g ++ rest) = some (g, rest) := by
  have value : (Nat.toDigits 16 g).foldl (fun acc c => acc * 16 + (digitValue 16 c).getD 0) 0 = g :=
    foldl_toDigits (by decide) fun d lt => by rw [digitValue_hex d lt]; rfl
  have digits : ∀ c ∈ Nat.toDigits 16 g, (digitValue 16 c).isSome = true := by
    intro c member
    obtain ⟨d, lt, rfl⟩ := mem_toDigits (by decide) member
    rw [digitValue_hex d lt]
    rfl
  have few : ∀ m, some 4 = some m → (Nat.toDigits 16 g).length ≤ m := by
    intro m same
    cases same
    exact (Nat.length_toDigits_le_iff (by decide) (by decide)).2 (by omega)
  rw [run_number_of_digits digits stop Nat.toDigits_ne_nil few (by rw [value]; exact small)
    (fun (wrong : true = false) _ => nomatch wrong), value]

/-! ## IPv4 addresses -/

theorem run_ipv4_text (a : Ipv4) {rest : List Char}
    (stop : ∀ c ∈ rest.head?, (digitValue 10 c).isSome = false) :
    ipv4.run (a.toText.toList ++ rest) = some (a, rest) := by
  obtain ⟨o₀, o₁, o₂, o₃, rfl, text⟩ := a.toText_toList
  have dot : ∀ xs : List Char, ∀ c ∈ ('.' :: xs).head?, (digitValue 10 c).isSome = false := by
    intro xs c member
    cases member
    rfl
  have small : ∀ o : UInt8, o.toNat ≤ 255 := fun o => Nat.le_of_lt_succ (UInt8.toNat_lt o)
  rw [text]
  simp only [ipv4, StateT.run_bind, List.append_assoc, List.cons_append,
    run_octet (small o₀) (dot _), run_octet (small o₁) (dot _), run_octet (small o₂) (dot _),
    run_octet (small o₃) stop, run_char, Option.bind_eq_bind, Option.bind_some, if_true,
    StateT.run_pure]
  simp

/-- An IPv4 address needs a dot right after its first number. -/
theorem run_ipv4_of_no_dot {cs : List Char}
    (noDot : (cs.dropWhile fun c => (digitValue 10 c).isSome).head? ≠ some '.') :
    ipv4.run cs = none := by
  simp only [ipv4, StateT.run_bind]
  rcases first : (number 10 (some 3) false 255).run cs with _ | ⟨a, rest⟩
  · rfl
  · have rest_eq := run_number_rest first
    subst rest_eq
    have refused : (char '.').run (cs.dropWhile fun c => (digitValue 10 c).isSome) = none := by
      rcases after : cs.dropWhile (fun c => (digitValue 10 c).isSome) with _ | ⟨c, more⟩
      · rfl
      · rw [after] at noDot
        rw [run_char, if_neg fun same => noDot (by rw [same]; rfl)]
    simp [refused]

theorem run_ipv4_of_dot_not_mem {cs : List Char} (noDot : '.' ∉ cs) : ipv4.run cs = none :=
  run_ipv4_of_no_dot fun found => noDot (head_dropWhile_mem found)

theorem run_ipv4_of_colon (cs : List Char) : ipv4.run (':' :: cs) = none :=
  run_ipv4_of_no_dot (by rw [List.dropWhile_cons_of_neg (by decide)]; simp)

/-- A hexadecimal group followed by a colon, or by nothing, is not an IPv4 address. -/
theorem run_ipv4_hexGroup (g : Nat) {more : List Char} (stop : ∀ c ∈ more.head?, c = ':') :
    ipv4.run (Nat.toDigits 16 g ++ more) = none := by
  apply run_ipv4_of_no_dot
  intro dot
  rw [List.dropWhile_append] at dot
  split at dot
  · -- past the digits, the reader stops at the colon
    rcases more with _ | ⟨c, more⟩
    · cases dot
    · have colon := stop c rfl
      subst colon
      rw [List.dropWhile_cons_of_neg (by decide)] at dot
      cases dot
  · -- the reader stops inside the group, at a letter
    have inDigits : '.' ∈ Nat.toDigits 16 g := by
      apply head_dropWhile_mem (p := fun c => (digitValue 10 c).isSome)
      rcases front : (Nat.toDigits 16 g).dropWhile (fun c => (digitValue 10 c).isSome) with
        _ | ⟨c, cs⟩
      · simp_all
      · simp_all
    obtain ⟨d, lt, same⟩ := mem_toDigits (by decide) inDigits
    have noDot : ∀ d < 16, '.' ≠ Nat.digitChar d := by decide
    exact noDot d lt same

/-! ## Groups -/

theorem run_groups_zero (limit index : Nat) (acc : List Nat) (cs : List Char) :
    (groups limit index acc 0).run cs = some ((acc.reverse, false), cs) := rfl

theorem run_groups_group {limit index fuel g : Nat} {acc : List Nat} {cs cs' : List Char}
    (noV4 : index + 1 < limit → (separated ':' index ipv4).run cs = none)
    (group : (separated ':' index (number 16 (some 4) true 65535)).run cs = some (g, cs')) :
    (groups limit index acc (fuel + 1)).run cs =
      (groups limit (index + 1) (g :: acc) fuel).run cs' := by
  -- the attempt at an IPv4 address is made only while two slots are left
  by_cases room : index + 1 < limit
  · simp only [groups, if_pos room, StateT.run_bind, run_optional, noV4 room, group,
      Option.bind_eq_bind, Option.bind_some]
  · simp only [groups, if_neg room, pure_bind, StateT.run_bind, run_optional, group,
      Option.bind_eq_bind, Option.bind_some]

theorem run_groups_stop {limit index fuel : Nat} {acc : List Nat} {cs : List Char}
    (noV4 : index + 1 < limit → (separated ':' index ipv4).run cs = none)
    (noGroup : (separated ':' index (number 16 (some 4) true 65535)).run cs = none) :
    (groups limit index acc (fuel + 1)).run cs = some ((acc.reverse, false), cs) := by
  by_cases room : index + 1 < limit
  · simp only [groups, if_pos room, StateT.run_bind, run_optional, noV4 room, noGroup,
      Option.bind_eq_bind, Option.bind_some]
    rfl
  · simp only [groups, if_neg room, pure_bind, StateT.run_bind, run_optional, noGroup,
      Option.bind_eq_bind, Option.bind_some]
    rfl

theorem run_groups_v4 {limit index fuel : Nat} {acc : List Nat} {cs cs' : List Char} {a : Ipv4}
    (room : index + 1 < limit) (v4 : (separated ':' index ipv4).run cs = some (a, cs')) :
    (groups limit index acc (fuel + 1)).run cs =
      some ((acc.reverse ++ [(a.octets.toList.map UInt8.toNat)[0]! * 256 +
        (a.octets.toList.map UInt8.toNat)[1]!, (a.octets.toList.map UInt8.toNat)[2]! * 256 +
        (a.octets.toList.map UInt8.toNat)[3]!], true), cs') := by
  simp only [groups, if_pos room, StateT.run_bind, run_optional, v4, Option.bind_eq_bind,
    Option.bind_some]
  rfl

/-- Groups stop at the end of the text. -/
theorem run_groups_end (limit index fuel : Nat) (acc : List Nat) :
    (groups limit index acc fuel).run [] = some ((acc.reverse, false), []) := by
  have fails : ∀ {α : Type} (p : Scan α), p.run [] = none → (separated ':' index p).run [] = none := by
    intro α p empty
    cases index with
    | zero => exact empty
    | succ k => exact run_separated_succ_nil ':' k p
  cases fuel with
  | zero => rfl
  | succ fuel =>
    exact run_groups_stop (fun _ => fails _ rfl) (fails _ (run_number_of_nondigit (by simp)))

/-- Groups stop at a double colon. -/
theorem run_groups_colons {limit index fuel : Nat} {acc : List Nat} (cs : List Char) :
    (groups limit index acc (fuel + 1)).run (':' :: ':' :: cs) =
      some ((acc.reverse, false), ':' :: ':' :: cs) :=
  run_groups_stop (fun _ => run_separated_colons run_ipv4_of_colon index cs)
    (run_separated_colons (fun _ => run_number_of_nondigit (by simp; rfl)) index cs)

/-! ## IPv6 addresses -/

theorem run_ipv6_full {cs rest : List Char} {head : List Nat} {v4 : Bool}
    (read : (groups 8 0 [] 8).run cs = some ((head, v4), rest)) (full : head.length = 8) :
    ipv6.run cs = some (ofGroups head, rest) := by
  simp only [ipv6, StateT.run_bind, read, Option.bind_eq_bind, Option.bind_some, full]
  rfl

theorem run_ipv6_compressed {cs more rest : List Char} {head tail : List Nat} {v4 : Bool}
    (read : (groups 8 0 [] 8).run cs = some ((head, false), ':' :: ':' :: more))
    (short : head.length ≠ 8)
    (readTail : (groups (8 - (head.length + 1)) 0 [] (8 - (head.length + 1))).run more =
      some ((tail, v4), rest)) :
    ipv6.run cs =
      some (ofGroups (head ++ List.replicate (8 - head.length - tail.length) 0 ++ tail), rest) := by
  rw [show 8 - (head.length + 1) = 7 - head.length by omega] at readTail
  simp only [ipv6, StateT.run_bind, read, Option.bind_eq_bind, Option.bind_some, if_neg short]
  simp [StateT.run_bind, run_char, readTail]

end Scan

end JudgeRelay
