import JudgeRelay.Proofs.Net.Scan

/-!
# Address text reads back

Reading the text of an IP address gives the address back (`IpAddress.parse?_toText`), for
every address of either family. The text is made of hexadecimal digits, colons and dots only
(`IpAddress.toText_chars`), at most 39 of them (`IpAddress.length_toText`).

IPv6 text takes one of three forms (`Ipv6.toText_cases`): an IPv4-mapped address
`::ffff:a.b.c.d`, groups around a `::` that stands for the first longest run of two or more
zero groups, and eight groups in full. The reader takes each back: groups are read one at a
time up to a double colon or the end (`Scan.run_groups_groupsText`), and a `::` is filled with
as many zeros as groups are missing. That this gives the address back rests on the run the
text leaves out being zeros (`Ipv6.longestZeroRun_zeros`), an invariant of the search
(`Ipv6.ZeroRuns`) kept by each of its steps.

IPv4 text starts with a number and a dot, which IPv6 text never does, so the reader of either
family takes an IPv6 text for what it is (`Scan.run_ipv4_v6Text`).
-/

namespace JudgeRelay

/-! ## Groups text -/

namespace Ipv6

/-- The text of groups after the first: each one after a colon. -/
def colonGroups : List Nat → List Char
  | [] => []
  | g :: gs => ':' :: Nat.toDigits 16 g ++ colonGroups gs

theorem groupsText_toList (g : Nat) (gs : List Nat) :
    (groupsText (g :: gs)).toList = Nat.toDigits 16 g ++ colonGroups gs := by
  rw [groupsText, String.toList_intercalate, List.map_map]
  induction gs generalizing g with
  | nil => simp [colonGroups]
  | cons g' gs ih =>
    rw [List.map_cons, List.map_cons, List.intercalate_cons_cons, ← List.map_cons, ih g']
    simp [colonGroups]

theorem colonGroups_head {gs : List Nat} {rest : List Char} (stop : ∀ c ∈ rest.head?, c = ':') :
    ∀ c ∈ (colonGroups gs ++ rest).head?, c = ':' := by
  cases gs with
  | nil => simpa [colonGroups] using stop
  | cons g gs => simp [colonGroups]

/-- Groups text holds hexadecimal digits and colons. -/
theorem mem_groupsText {gs : List Nat} {c : Char} (member : c ∈ (groupsText gs).toList) :
    c = ':' ∨ ∃ d < 16, c = Nat.digitChar d := by
  have inColons : ∀ {gs : List Nat}, c ∈ colonGroups gs → c = ':' ∨ ∃ d < 16, c = Nat.digitChar d := by
    intro gs member
    induction gs with
    | nil => cases member
    | cons g gs ih =>
      simp only [colonGroups, List.cons_append, List.mem_cons, List.mem_append] at member
      rcases member with colon | digit | later
      · exact .inl colon
      · exact .inr (mem_toDigits (by decide) digit)
      · exact ih later
  cases gs with
  | nil => cases member
  | cons g gs =>
    rw [groupsText_toList, List.mem_append] at member
    rcases member with digit | later
    · exact .inr (mem_toDigits (by decide) digit)
    · exact inColons later

theorem dot_not_mem_groupsText (gs : List Nat) : '.' ∉ (groupsText gs).toList := by
  intro member
  have noDot : ∀ d < 16, '.' ≠ Nat.digitChar d := by decide
  rcases mem_groupsText member with colon | ⟨d, lt, same⟩
  · cases colon
  · exact noDot d lt same

theorem length_hexGroup {g : Nat} (small : g ≤ 65535) : (Nat.toDigits 16 g).length ≤ 4 :=
  (Nat.length_toDigits_le_iff (by decide) (by decide)).2 (by omega)

/-- Groups text takes at most four digits a group and a colon between groups. -/
theorem length_groupsText {gs : List Nat} (small : ∀ g ∈ gs, g ≤ 65535) :
    (groupsText gs).length ≤ 5 * gs.length - 1 := by
  have colons : ∀ {gs : List Nat}, (∀ g ∈ gs, g ≤ 65535) → (colonGroups gs).length ≤ 5 * gs.length := by
    intro gs small
    induction gs with
    | nil => simp [colonGroups]
    | cons g gs ih =>
      have group := length_hexGroup (small g (List.mem_cons_self ..))
      have rest := ih fun g' member => small g' (List.mem_cons_of_mem _ member)
      simp only [colonGroups, List.cons_append, List.length_cons, List.length_append]
      omega
  cases gs with
  | nil => simp [groupsText]
  | cons g gs =>
    have group := length_hexGroup (small g (List.mem_cons_self ..))
    have rest := colons fun g' member => small g' (List.mem_cons_of_mem _ member)
    rw [← String.length_toList, groupsText_toList, List.length_append, List.length_cons]
    omega

end Ipv6

namespace Scan

open Ipv6 (colonGroups colonGroups_head groupsText groupsText_toList)

theorem not_hex_of_colon {cs : List Char} (stop : ∀ c ∈ cs.head?, c = ':') :
    ∀ c ∈ cs.head?, (digitValue 16 c).isSome = false := by
  intro c member
  rw [stop c member]
  rfl

/-- Groups after the first, each after a colon, are read one by one. The induction is on the
groups; each step reads a colon and a group, the attempt at an IPv4 address failing on it. -/
theorem run_groups_colonGroups {limit index fuel : Nat} {acc gs : List Nat} {rest : List Char}
    (small : ∀ g ∈ gs, g ≤ 65535) (enough : gs.length ≤ fuel) (stop : ∀ c ∈ rest.head?, c = ':') :
    (groups limit (index + 1) acc fuel).run (colonGroups gs ++ rest) =
      (groups limit (index + 1 + gs.length) (gs.reverse ++ acc) (fuel - gs.length)).run rest := by
  induction gs generalizing index acc fuel with
  | nil => simp [colonGroups]
  | cons g gs ih =>
    obtain ⟨fuel, rfl⟩ : ∃ f, fuel = f + 1 := ⟨fuel - 1, by simp at enough; omega⟩
    have next : ∀ c ∈ (colonGroups gs ++ rest).head?, c = ':' := colonGroups_head stop
    have text : colonGroups (g :: gs) ++ rest =
        ':' :: (Nat.toDigits 16 g ++ (colonGroups gs ++ rest)) := by
      simp [colonGroups]
    rw [text, run_groups_group (fun _ => by rw [run_separated_succ]; exact run_ipv4_hexGroup g next)
      (by
        rw [run_separated_succ]
        exact run_hexGroup (small g (List.mem_cons_self ..)) (not_hex_of_colon next)),
      ih (fun g' member => small g' (List.mem_cons_of_mem _ member)) (by simp at enough; omega)]
    simp only [List.length_cons, List.reverse_cons, List.append_assoc, List.singleton_append]
    congr 2 <;> omega

/-- The groups of a text are read one by one, up to a colon or the end. -/
theorem run_groups_groupsText {limit fuel : Nat} {gs : List Nat} {rest : List Char}
    (small : ∀ g ∈ gs, g ≤ 65535) (enough : gs.length ≤ fuel) (stop : ∀ c ∈ rest.head?, c = ':') :
    (groups limit 0 [] fuel).run ((groupsText gs).toList ++ rest) =
      (groups limit gs.length gs.reverse (fuel - gs.length)).run rest := by
  cases gs with
  | nil => rfl
  | cons g gs =>
    obtain ⟨fuel, rfl⟩ : ∃ f, fuel = f + 1 := ⟨fuel - 1, by simp at enough; omega⟩
    have next : ∀ c ∈ (colonGroups gs ++ rest).head?, c = ':' := colonGroups_head stop
    rw [groupsText_toList, List.append_assoc,
      run_groups_group (fun _ => (run_separated_zero ':' ipv4 _).trans (run_ipv4_hexGroup g next))
        ((run_separated_zero ':' _ _).trans
          (run_hexGroup (small g (List.mem_cons_self ..)) (not_hex_of_colon next))),
      run_groups_colonGroups (fun g' member => small g' (List.mem_cons_of_mem _ member))
        (by simp at enough; omega) stop]
    simp only [List.length_cons, List.reverse_cons]
    congr 2 <;> omega

/-- Eight groups in full are read back. -/
theorem run_ipv6_groupsText {gs : List Nat} (small : ∀ g ∈ gs, g ≤ 65535) (eight : gs.length = 8) :
    ipv6.run (groupsText gs).toList = some (ofGroups gs, []) := by
  have read : (groups 8 0 [] 8).run ((groupsText gs).toList ++ []) = _ :=
    run_groups_groupsText small (Nat.le_of_eq eight) (by simp)
  rw [List.append_nil, eight, run_groups_zero, List.reverse_reverse] at read
  exact run_ipv6_full read eight

/-- Groups around a double colon are read back, with the zeros the colon stands for. -/
theorem run_ipv6_compressedText {gs : List Nat} {start len : Nat} (small : ∀ g ∈ gs, g ≤ 65535)
    (eight : gs.length = 8) (long : 1 < len) (within : start + len ≤ 8) :
    ipv6.run (groupsText (gs.take start) ++ "::" ++ groupsText (gs.drop (start + len))).toList =
      some (ofGroups (gs.take start ++ List.replicate len 0 ++ gs.drop (start + len)), []) := by
  have headLength : (gs.take start).length = start := by simp; omega
  have tailLength : (gs.drop (start + len)).length = 8 - start - len := by simp; omega
  have text : (groupsText (gs.take start) ++ "::" ++ groupsText (gs.drop (start + len))).toList =
      (groupsText (gs.take start)).toList ++
        ':' :: ':' :: (groupsText (gs.drop (start + len))).toList := by
    simp
  -- the head stops at the double colon, with fuel left since the colon stands for two groups
  have head : (groups 8 0 [] 8).run ((groupsText (gs.take start)).toList ++
      ':' :: ':' :: (groupsText (gs.drop (start + len))).toList) = _ :=
    run_groups_groupsText (fun g member => small g (List.mem_of_mem_take member))
      (by rw [headLength]; omega) (by simp)
  rw [headLength, show 8 - start = (7 - start) + 1 by omega, run_groups_colons,
    List.reverse_reverse] at head
  -- the tail runs to the end of the text
  have tail : (groups (8 - (start + 1)) 0 [] (8 - (start + 1))).run
      ((groupsText (gs.drop (start + len))).toList ++ []) = _ :=
    run_groups_groupsText (fun g member => small g (List.mem_of_mem_drop member))
      (by rw [tailLength]; omega) (by simp)
  rw [List.append_nil, run_groups_end, List.reverse_reverse] at tail
  rw [text, run_ipv6_compressed head (by rw [headLength]; omega) (by rw [headLength]; exact tail),
    headLength, tailLength, show 8 - start - (8 - start - len) = len by omega]

/-- An IPv4-mapped address is read back from its text: five zero groups, `ffff` and the two
groups of the IPv4 address. -/
theorem run_ipv6_mappedText (v4 : Ipv4) :
    ipv6.run ("::ffff:" ++ v4.toText).toList =
      some (ofGroups [0, 0, 0, 0, 0, 65535,
        (v4.octets.toList.map UInt8.toNat)[0]! * 256 + (v4.octets.toList.map UInt8.toNat)[1]!,
        (v4.octets.toList.map UInt8.toNat)[2]! * 256 + (v4.octets.toList.map UInt8.toNat)[3]!],
        []) := by
  have ffff : Nat.toDigits 16 65535 = ['f', 'f', 'f', 'f'] := by decide
  have text : ("::ffff:" ++ v4.toText).toList =
      ':' :: ':' :: (Nat.toDigits 16 65535 ++ ':' :: v4.toText.toList) := by
    rw [ffff, String.toList_append,
      show "::ffff:".toList = [':', ':', 'f', 'f', 'f', 'f', ':'] by decide]
    rfl
  have head : (groups 8 0 [] 8).run (':' :: ':' :: (Nat.toDigits 16 65535 ++ ':' :: v4.toText.toList)) =
      some (([], false), ':' :: ':' :: (Nat.toDigits 16 65535 ++ ':' :: v4.toText.toList)) :=
    run_groups_colons _
  have address : (separated ':' 1 ipv4).run (':' :: v4.toText.toList) = some (v4, []) := by
    rw [run_separated_succ, ← List.append_nil v4.toText.toList]
    exact run_ipv4_text v4 (by simp)
  -- after `ffff`, two slots are left, and the IPv4 address fills them
  have tail : (groups 7 0 [] 7).run (Nat.toDigits 16 65535 ++ ':' :: v4.toText.toList) =
      some (([65535] ++
        [(v4.octets.toList.map UInt8.toNat)[0]! * 256 + (v4.octets.toList.map UInt8.toNat)[1]!,
          (v4.octets.toList.map UInt8.toNat)[2]! * 256 + (v4.octets.toList.map UInt8.toNat)[3]!],
        true), []) := by
    rw [run_groups_group
      (fun _ => (run_separated_zero ':' ipv4 _).trans (run_ipv4_hexGroup 65535 (by simp)))
      ((run_separated_zero ':' _ _).trans (run_hexGroup (by decide) (by simp; rfl))),
      run_groups_v4 (by decide) address]
    rfl
  rw [text, run_ipv6_compressed head (by decide) tail]
  rfl

end Scan

/-! ## The first longest run of zeros -/

namespace Ipv6

open Scan (ofGroups)

theorem ofGroups_segments (a : Ipv6) : ofGroups (a.segments.toList.map UInt16.toNat) = a := by
  obtain ⟨segments⟩ := a
  rw [ofGroups, Ipv6.mk.injEq]
  ext i lt
  simp

theorem segments_small (a : Ipv6) : ∀ g ∈ a.segments.toList.map UInt16.toNat, g ≤ 65535 := by
  intro g member
  obtain ⟨s, -, rfl⟩ := List.mem_map.1 member
  exact Nat.le_of_lt_succ s.toNat_lt

theorem segments_length (a : Ipv6) : (a.segments.toList.map UInt16.toNat).length = 8 := by simp

/-- One step of the search for the first longest run of zero groups: the best run so far, the
current run and the position. -/
def zeroRunStep : (Nat × Nat) × (Nat × Nat) × Nat → Nat → (Nat × Nat) × (Nat × Nat) × Nat
  | ((bestStart, bestLen), (curStart, curLen), i), g =>
    if g = 0 then
      let cur := if curLen = 0 then (i, 1) else (curStart, curLen + 1)
      ((if cur.2 > bestLen then cur else (bestStart, bestLen)), cur, i + 1)
    else ((bestStart, bestLen), (0, 0), i + 1)

theorem longestZeroRun_eq (gs : List Nat) :
    longestZeroRun gs = (gs.foldl zeroRunStep ((0, 0), (0, 0), 0)).1 := rfl

/-- What the search knows after the groups `p`: the best run lies in `p` and holds zeros, and
the current run, when there is one, is the zeros that end `p`. -/
structure ZeroRuns (p : List Nat) (st : (Nat × Nat) × (Nat × Nat) × Nat) : Prop where
  position : st.2.2 = p.length
  best_within : st.1.1 + st.1.2 ≤ p.length
  best_zeros : (p.drop st.1.1).take st.1.2 = List.replicate st.1.2 0
  current : 0 < st.2.1.2 →
    st.2.1.1 + st.2.1.2 = p.length ∧ p.drop st.2.1.1 = List.replicate st.2.1.2 0

theorem zeros_append {p q : List Nat} {start len : Nat} (within : start + len ≤ p.length)
    (zeros : (p.drop start).take len = List.replicate len 0) :
    ((p ++ q).drop start).take len = List.replicate len 0 := by
  rw [List.drop_append_of_le_length (by omega), List.take_append_of_le_length (by simp; omega),
    zeros]

theorem ZeroRuns.step {p : List Nat} {st : (Nat × Nat) × (Nat × Nat) × Nat} (runs : ZeroRuns p st)
    (g : Nat) : ZeroRuns (p ++ [g]) (zeroRunStep st g) := by
  obtain ⟨⟨bs, bl⟩, ⟨cs, cl⟩, i⟩ := st
  obtain ⟨position, within, zeros, current⟩ := runs
  dsimp only at position within zeros current
  subst position
  by_cases zero : g = 0
  · subst zero
    simp only [zeroRunStep, if_true]
    generalize started : (if cl = 0 then (p.length, 1) else (cs, cl + 1)) = cur
    -- the current run grows by this zero, or starts at it
    obtain ⟨ends, tail⟩ : cur.1 + cur.2 = p.length + 1 ∧
        (p ++ [0]).drop cur.1 = List.replicate cur.2 0 := by
      subst started
      by_cases fresh : cl = 0
      · simp [fresh]
      · obtain ⟨ends, tail⟩ := current (Nat.pos_of_ne_zero fresh)
        simp only [if_neg fresh]
        refine ⟨by omega, ?_⟩
        rw [List.drop_append_of_le_length (by omega), tail, List.replicate_succ']
    by_cases longer : cur.2 > bl
    · rw [if_pos longer]
      exact ⟨by simp, by simp [ends], by simp [tail], fun _ => ⟨by simp [ends], tail⟩⟩
    · rw [if_neg longer]
      exact ⟨by simp, by simp; omega, zeros_append within zeros, fun _ => ⟨by simp [ends], tail⟩⟩
  · simp only [zeroRunStep, if_neg zero]
    exact ⟨by simp, by simp; omega, zeros_append within zeros,
      fun none => (Nat.lt_irrefl 0 none).elim⟩

theorem ZeroRuns.foldl {p : List Nat} {st : (Nat × Nat) × (Nat × Nat) × Nat} (runs : ZeroRuns p st)
    (gs : List Nat) : ZeroRuns (p ++ gs) (gs.foldl zeroRunStep st) := by
  induction gs generalizing p st with
  | nil => simpa using runs
  | cons g gs ih =>
    rw [List.foldl_cons, List.append_cons]
    exact ih (runs.step g)

/-- The run of zero groups that the text leaves out lies within the groups and holds zeros
only. -/
theorem longestZeroRun_zeros (gs : List Nat) :
    (longestZeroRun gs).1 + (longestZeroRun gs).2 ≤ gs.length ∧
      gs = gs.take (longestZeroRun gs).1 ++ List.replicate (longestZeroRun gs).2 0 ++
        gs.drop ((longestZeroRun gs).1 + (longestZeroRun gs).2) := by
  have start : ZeroRuns [] ((0, 0), (0, 0), 0) :=
    ⟨rfl, Nat.le_refl _, rfl, fun none => (Nat.lt_irrefl 0 none).elim⟩
  obtain ⟨-, within, zeros, -⟩ := start.foldl gs
  rw [longestZeroRun_eq]
  simp only [List.nil_append] at within zeros
  refine ⟨within, ?_⟩
  rw [List.append_assoc, ← zeros, ← List.drop_drop, List.take_append_drop, List.take_append_drop]

/-- The groups of an IPv4-mapped address, read back from its IPv4 part. -/
theorem mapped_groups {gs : List Nat} (eight : gs.length = 8) (small : ∀ g ∈ gs, g ≤ 65535)
    (mapped : gs.take 6 = [0, 0, 0, 0, 0, 0xffff]) :
    let v4 : Ipv4 := ⟨#v[((gs.drop 6)[0]! / 256).toUInt8, ((gs.drop 6)[0]! % 256).toUInt8,
      ((gs.drop 6)[1]! / 256).toUInt8, ((gs.drop 6)[1]! % 256).toUInt8]⟩
    [0, 0, 0, 0, 0, 65535,
      (v4.octets.toList.map UInt8.toNat)[0]! * 256 + (v4.octets.toList.map UInt8.toNat)[1]!,
      (v4.octets.toList.map UInt8.toNat)[2]! * 256 + (v4.octets.toList.map UInt8.toNat)[3]!] = gs := by
  intro v4
  rcases gs with _ | ⟨g₀, _ | ⟨g₁, _ | ⟨g₂, _ | ⟨g₃, _ | ⟨g₄, _ | ⟨g₅, _ | ⟨g₆, _ | ⟨g₇, _ | ⟨_, _⟩⟩⟩⟩⟩⟩⟩⟩⟩ <;>
    simp at eight
  simp only [List.take_succ_cons, List.take_zero, List.cons.injEq] at mapped
  obtain ⟨rfl, rfl, rfl, rfl, rfl, rfl, -⟩ := mapped
  -- each group is its high octet times 256 plus its low octet
  have low₆ := small g₆ (by simp)
  have low₇ := small g₇ (by simp)
  simp [v4]
  omega

/-- The three forms of IPv6 text: an IPv4-mapped address, groups around a double colon that
stands for a run of two or more zero groups, and eight groups in full. -/
theorem toText_cases (a : Ipv6) :
    (∃ v4 : Ipv4, a.toText = "::ffff:" ++ v4.toText ∧
      ofGroups [0, 0, 0, 0, 0, 65535,
        (v4.octets.toList.map UInt8.toNat)[0]! * 256 + (v4.octets.toList.map UInt8.toNat)[1]!,
        (v4.octets.toList.map UInt8.toNat)[2]! * 256 + (v4.octets.toList.map UInt8.toNat)[3]!] = a) ∨
    (∃ start len, 1 < len ∧ start + len ≤ 8 ∧
      a.toText = groupsText ((a.segments.toList.map UInt16.toNat).take start) ++ "::" ++
        groupsText ((a.segments.toList.map UInt16.toNat).drop (start + len)) ∧
      ofGroups ((a.segments.toList.map UInt16.toNat).take start ++ List.replicate len 0 ++
        (a.segments.toList.map UInt16.toNat).drop (start + len)) = a) ∨
    a.toText = groupsText (a.segments.toList.map UInt16.toNat) := by
  have small := segments_small a
  have eight := segments_length a
  unfold toText
  by_cases mapped : (a.segments.toList.map UInt16.toNat).take 6 = [0, 0, 0, 0, 0, 0xffff]
  · rw [if_pos mapped]
    exact .inl ⟨_, rfl, by rw [mapped_groups eight small mapped, ofGroups_segments]⟩
  · rw [if_neg mapped]
    obtain ⟨within, split⟩ := longestZeroRun_zeros (a.segments.toList.map UInt16.toNat)
    rcases run : longestZeroRun (a.segments.toList.map UInt16.toNat) with ⟨start, len⟩
    rw [run] at within split
    dsimp only
    by_cases long : len > 1
    · rw [if_pos long]
      exact .inr (.inl ⟨start, len, long, by rwa [eight] at within, rfl,
        by rw [← split, ofGroups_segments]⟩)
    · rw [if_neg long]
      exact .inr (.inr rfl)

end Ipv6

/-! ## Reading back -/

namespace Scan

/-- Reading the text of an IPv6 address gives the address back. -/
theorem run_ipv6_toText (a : Ipv6) : ipv6.run a.toText.toList = some (a, []) := by
  have small := a.segments_small
  have eight := a.segments_length
  rcases a.toText_cases with ⟨v4, text, back⟩ | ⟨start, len, long, within, text, back⟩ | text
  · rw [text, run_ipv6_mappedText, back]
  · rw [text, run_ipv6_compressedText small eight long within, back]
  · rw [text, run_ipv6_groupsText small eight, a.ofGroups_segments]

/-- IPv6 text is not IPv4 text: it starts with a colon, or holds no dot. -/
theorem run_ipv4_v6Text (a : Ipv6) : ipv4.run a.toText.toList = none := by
  rcases a.toText_cases with ⟨v4, text, -⟩ | ⟨start, len, -, -, text, -⟩ | text
  · rw [text, String.toList_append, show "::ffff:".toList = [':', ':', 'f', 'f', 'f', 'f', ':'] by decide]
    exact run_ipv4_of_colon _
  · apply run_ipv4_of_dot_not_mem
    rw [text]
    simp only [String.toList_append, List.mem_append, not_or]
    exact ⟨⟨Ipv6.dot_not_mem_groupsText _, by decide⟩, Ipv6.dot_not_mem_groupsText _⟩
  · rw [text]
    exact run_ipv4_of_dot_not_mem (Ipv6.dot_not_mem_groupsText _)

end Scan

theorem Ipv4.parse?_toText (a : Ipv4) : Ipv4.parse? a.toText = some a := by
  unfold Ipv4.parse? Scan.whole
  rw [← List.append_nil a.toText.toList, Scan.run_ipv4_text a (by simp)]

theorem Ipv6.parse?_toText (a : Ipv6) : Ipv6.parse? a.toText = some a := by
  unfold Ipv6.parse? Scan.whole
  rw [Scan.run_ipv6_toText]

/-- Reading the text of an IP address gives the address back. -/
theorem IpAddress.parse?_toText (a : IpAddress) : IpAddress.parse? a.toText = some a := by
  unfold IpAddress.parse? Scan.whole Scan.ip
  cases a with
  | v4 a =>
    rw [IpAddress.toText, Scan.run_orElse, StateT.run_map, ← List.append_nil a.toText.toList,
      Scan.run_ipv4_text a (by simp)]
    rfl
  | v6 a =>
    -- the IPv4 reader fails on the text, and the IPv6 reader takes it
    rw [IpAddress.toText, Scan.run_orElse, StateT.run_map, StateT.run_map, Scan.run_ipv4_v6Text,
      Scan.run_ipv6_toText]
    rfl

/-! ## Characters and lengths -/

/-- The characters of address text: hexadecimal digits, colons and dots. -/
def AddressChar (c : Char) : Prop := c = ':' ∨ c = '.' ∨ ∃ d < 16, c = Nat.digitChar d

/-- Address characters are ASCII, and neither a space nor a line break. -/
theorem AddressChar.ascii {c : Char} (member : AddressChar c) :
    c.toNat < 128 ∧ c ≠ ' ' ∧ c ≠ '\r' := by
  have digits : ∀ d < 16, (Nat.digitChar d).toNat < 128 ∧ Nat.digitChar d ≠ ' ' ∧
      Nat.digitChar d ≠ '\r' := by decide
  rcases member with rfl | rfl | ⟨d, lt, rfl⟩
  · decide
  · decide
  · exact digits d lt

theorem Ipv4.toText_chars (a : Ipv4) :
    ∀ c ∈ a.toText.toList, c = '.' ∨ ∃ d < 10, c = Nat.digitChar d := by
  obtain ⟨o₀, o₁, o₂, o₃, -, text⟩ := a.toText_toList
  intro c member
  rw [text] at member
  simp only [List.mem_append, List.mem_cons] at member
  rcases member with (((digit | rfl | digit) | rfl | digit) | rfl | digit) <;>
    first | exact .inl rfl | exact .inr (mem_toDigits (by decide) digit)

/-- IPv4 text takes at most three digits an octet, and three dots. -/
theorem Ipv4.length_toText (a : Ipv4) : a.toText.length ≤ 15 := by
  obtain ⟨o₀, o₁, o₂, o₃, -, text⟩ := a.toText_toList
  have octet : ∀ o : UInt8, (Nat.toDigits 10 o.toNat).length ≤ 3 := fun o =>
    (Nat.length_toDigits_le_iff (by decide) (by decide)).2 (by have := o.toNat_lt; omega)
  have first := octet o₀
  have second := octet o₁
  have third := octet o₂
  have fourth := octet o₃
  rw [← String.length_toList, text]
  simp only [List.length_append, List.length_cons]
  omega

theorem Ipv6.toText_chars (a : Ipv6) : ∀ c ∈ a.toText.toList, AddressChar c := by
  have fromGroups : ∀ gs c, c ∈ (groupsText gs).toList → AddressChar c := fun gs c member =>
    (mem_groupsText member).elim .inl fun digit => .inr (.inr digit)
  intro c member
  rcases a.toText_cases with ⟨v4, text, -⟩ | ⟨start, len, -, -, text, -⟩ | text
  · rw [text, String.toList_append, List.mem_append,
      show "::ffff:".toList = [':', ':', 'f', 'f', 'f', 'f', ':'] by decide] at member
    rcases member with fixed | address
    · simp only [List.mem_cons, List.not_mem_nil, or_false] at fixed
      rcases fixed with rfl | rfl | rfl | rfl | rfl | rfl | rfl
      all_goals first | exact .inl rfl | exact .inr (.inr ⟨15, by decide, rfl⟩)
    · rcases v4.toText_chars c address with dot | ⟨d, lt, digit⟩
      · exact .inr (.inl dot)
      · exact .inr (.inr ⟨d, by omega, digit⟩)
  · rw [text] at member
    simp only [String.toList_append, List.mem_append] at member
    rcases member with (front | colons) | back
    · exact fromGroups _ c front
    · have colon : c = ':' := by simpa [show "::".toList = [':', ':'] by decide] using colons
      exact .inl colon
    · exact fromGroups _ c back
  · rw [text] at member
    exact fromGroups _ c member

/-- IPv6 text is at most eight groups of four digits with colons between them. -/
theorem Ipv6.length_toText (a : Ipv6) : a.toText.length ≤ 39 := by
  have small := a.segments_small
  have eight := a.segments_length
  rcases a.toText_cases with ⟨v4, text, -⟩ | ⟨start, len, long, within, text, -⟩ | text
  · have address := v4.length_toText
    rw [text, String.length_append, show "::ffff:".length = 7 from rfl]
    omega
  · have front : (groupsText ((a.segments.toList.map UInt16.toNat).take start)).length ≤ _ :=
      length_groupsText fun g member => small g (List.mem_of_mem_take member)
    have back : (groupsText ((a.segments.toList.map UInt16.toNat).drop (start + len))).length ≤ _ :=
      length_groupsText fun g member => small g (List.mem_of_mem_drop member)
    rw [List.length_take, eight] at front
    rw [List.length_drop, eight] at back
    rw [text, String.length_append, String.length_append, show "::".length = 2 from rfl]
    omega
  · have full := length_groupsText small
    rw [text]
    rw [eight] at full
    omega

theorem IpAddress.toText_chars : ∀ a : IpAddress, ∀ c ∈ a.toText.toList, AddressChar c
  | .v4 a, c, member => (a.toText_chars c member).elim (fun dot => .inr (.inl dot))
      fun ⟨d, lt, digit⟩ => .inr (.inr ⟨d, by omega, digit⟩)
  | .v6 a, c, member => a.toText_chars c member

theorem IpAddress.length_toText : ∀ a : IpAddress, a.toText.length ≤ 39
  | .v4 a => Nat.le_trans a.length_toText (by decide)
  | .v6 a => a.length_toText

end JudgeRelay
