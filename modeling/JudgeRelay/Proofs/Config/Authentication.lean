import Mathlib
import JudgeRelay.Proofs.Except
import JudgeRelay.Config.Credentials

/-!
# Judge authentication

What a credentials file lets in. A judge's table under `judges` gives a key, a tier (1 when
absent) and whether the judge is disabled (false when absent); `JudgeTable` says so of a TOML
value, and `credential_eq_ok` shows that reading a table gives exactly that.

Main statement, `authentication_matches_listed_digest`: for every file that `JudgeAuth.parse`
accepts and every hash function, a name and a key authenticate with profile `p` exactly when
the file's table for that name gives profile `p` and a key with the digest of the given one;
no accepted file lists an empty key. The digests are compared by the OR of their bytes' XORs,
which is zero exactly when they are equal (`digestMismatch_eq_zero_iff`). Nothing is assumed of
the hash: it is a function of the key's bytes, so equal keys always pass, and different keys
pass exactly when their digests collide.
-/

namespace JudgeRelay

/-! ## Credentials documents -/

namespace Toml.Value

/-- The value of a key in a table: that of its first entry with the key, the only one in a
document that `Toml.parse` reads. -/
def get? (v : Value) (k : String) : Option Value :=
  match v with
  | .table es => (es.find? (·.1 == k)).map (·.2)
  | _ => none

end Toml.Value

/-- The judge tables of a credentials document, by name: the members of its `judges` table. -/
def judgeTables (doc : Toml.Value) : List (String × Toml.Value) :=
  match doc.get? "judges" with
  | some (.table js) => js
  | _ => []

/-- A judge's table gives `key` and `profile`: its `key` is that string, its `tier` an integer
below `2 ^ 32` or absent for tier 1, and its `disabled` a boolean or absent for false. -/
structure JudgeTable (v : Toml.Value) (key : String) (profile : JudgeProfile) : Prop where
  hasKey : v.get? "key" = some (.string key)
  hasTier : v.get? "tier" = none ∧ profile.tier = 1 ∨
    ∃ n : Int, v.get? "tier" = some (.integer n) ∧ 0 ≤ n ∧ n < 4294967296 ∧ profile.tier = n.toNat
  hasDisabled : v.get? "disabled" = none ∧ profile.disabled = false ∨
    v.get? "disabled" = some (.boolean profile.disabled)

theorem judgeTable_iff {v : Toml.Value} {key : String} {profile : JudgeProfile} :
    JudgeTable v key profile ↔ v.get? "key" = some (.string key) ∧
      (v.get? "tier" = none ∧ profile.tier = 1 ∨
        ∃ n : Int, v.get? "tier" = some (.integer n) ∧ 0 ≤ n ∧ n < 4294967296 ∧
          profile.tier = n.toNat) ∧
      (v.get? "disabled" = none ∧ profile.disabled = false ∨
        v.get? "disabled" = some (.boolean profile.disabled)) :=
  ⟨fun h => ⟨h.1, h.2, h.3⟩, fun h => ⟨h.1, h.2.1, h.2.2⟩⟩

/-- A table gives one key and one profile. -/
theorem JudgeTable.unique {v : Toml.Value} {k k' : String} {p p' : JudgeProfile}
    (h : JudgeTable v k p) (h' : JudgeTable v k' p') : k = k' ∧ p = p' := by
  obtain ⟨key, tier, disabled⟩ := h
  obtain ⟨key', tier', disabled'⟩ := h'
  obtain ⟨t, d⟩ := p
  obtain ⟨t', d'⟩ := p'
  rw [key] at key'
  simp only [Option.some.injEq, Toml.Value.string.injEq] at key'
  refine ⟨key', ?_⟩
  -- both read the same `tier` and `disabled` entries
  rcases tier with ⟨absent, rfl⟩ | ⟨n, given, -, -, rfl⟩ <;>
  rcases tier' with ⟨absent', rfl⟩ | ⟨n', given', -, -, rfl⟩ <;>
  rcases disabled with ⟨off, rfl⟩ | set <;>
  rcases disabled' with ⟨off', rfl⟩ | set' <;>
  simp_all

namespace JudgeAuth

/-! ## Reading the file -/

set_option linter.unusedSimpArgs false in
/-- Reading a judge's table gives exactly what the table says, under the judge's name. -/
theorem credential_eq_ok {name : String} {v : Toml.Value} {c : Credential} :
    credential name v = .ok c ↔ c.name = name ∧ JudgeTable v c.key c.profile := by
  obtain ⟨cname, ckey, ⟨ctier, cdisabled⟩⟩ := c
  cases v
  case table es =>
    simp only [credential, judgeTable_iff, Toml.Value.get?]
    -- the three entries the reader looks up
    generalize (es.find? (·.1 == "key")).map (·.2) = readKey
    generalize (es.find? (·.1 == "tier")).map (·.2) = readTier
    generalize (es.find? (·.1 == "disabled")).map (·.2) = readDisabled
    have bound : Int.pow 2 32 = 4294967296 := rfl
    -- an entry of the wrong type is refused, whatever the others hold
    rcases readKey with _ | ⟨key | _ | _ | _ | _ | _ | _⟩ <;>
      simp [bind, Except.bind, pure, Except.pure, throw, throwThe, MonadExceptOf.throw]
    rcases readTier with _ | ⟨_ | n | _ | _ | _ | _ | _⟩ <;>
      simp [bind, Except.bind, pure, Except.pure, throw, throwThe, MonadExceptOf.throw, bound] <;>
    rcases readDisabled with _ | ⟨_ | _ | _ | b | _ | _ | _⟩ <;>
      simp [bind, Except.bind, pure, Except.pure, throw, throwThe, MonadExceptOf.throw] <;>
    -- what is left: the names agree, and an integer tier is kept when it fits 32 bits
    grind
  all_goals simp [credential, judgeTable_iff, Toml.Value.get?, throw, throwThe,
    MonadExceptOf.throw]

/-- An accepted file is a TOML document whose judge tables all read, in order, as the
credentials kept, none of them with an empty key. -/
theorem parse_eq_ok {text : String} {auth : JudgeAuth} (h : parse text = .ok auth) :
    ∃ doc, Toml.parse text = .ok doc ∧
      List.Forall₂ (fun p c => credential p.1 p.2 = .ok c) (judgeTables doc) auth.judges ∧
      auth.judges.find? (·.key.isEmpty) = none := by
  simp only [parse] at h
  obtain ⟨doc, read, h⟩ := bind_eq_ok.1 h
  refine ⟨doc, mapError_eq_ok.1 read, ?_⟩
  cases doc
  case table entries =>
    dsimp only at h
    simp only [judgeTables, Toml.Value.get?]
    generalize (entries.find? (·.1 == "judges")).map (·.2) = judges at h ⊢
    rcases judges with _ | ⟨_ | _ | _ | _ | _ | _ | js⟩
    case some.table =>
      obtain ⟨judges, listed, h⟩ := bind_eq_ok.1 h
      -- past the tables, the only check left is the one for an empty key
      split at h
      · simp [throw, throwThe, MonadExceptOf.throw] at h
      · rename_i noEmpty
        cases h
        exact ⟨mapM_eq_ok.1 (mapError_eq_ok.1 listed), noEmpty⟩
    case none =>
      simp [pure, Except.pure, bind, Except.bind] at h
      subst h
      simp
    all_goals simp [throw, throwThe, MonadExceptOf.throw, bind, Except.bind] at h
  -- `Toml.parse` gives a table, but any other document would have no judges
  all_goals
    simp [pure, Except.pure, bind, Except.bind] at h
    subst h
    simp [judgeTables, Toml.Value.get?]

/-- Looking a name up among credentials read from tables finds the credential of the first
table of that name. -/
theorem find?_name_eq_some {js : List (String × Toml.Value)} {cs : List Credential}
    (read : List.Forall₂ (fun p c => credential p.1 p.2 = .ok c) js cs)
    {name : String} {c : Credential} :
    cs.find? (·.name == name) = some c ↔ ∃ v, js.lookup name = some v ∧ credential name v = .ok c := by
  induction read with
  | nil => simp
  | @cons entry c' js cs head _ ih =>
    obtain ⟨n, v⟩ := entry
    have named : c'.name = n := (credential_eq_ok.1 head).1
    by_cases same : n = name
    · subst same
      simp only [List.find?_cons, named, beq_self_eq_true, List.lookup_cons, Option.some.injEq]
      constructor
      · rintro rfl
        exact ⟨v, rfl, head⟩
      · rintro ⟨v', rfl, read'⟩
        simpa [head] using read'
    · have differs : (name == n) = false := by simpa using Ne.symm same
      simp [List.lookup_cons, named, same, differs, ih]

/-- No table of a file whose credentials all have keys gives an empty key. -/
theorem key_ne_empty {js : List (String × Toml.Value)} {cs : List Credential}
    (read : List.Forall₂ (fun p c => credential p.1 p.2 = .ok c) js cs)
    (noEmpty : cs.find? (·.key.isEmpty) = none) {name : String} {v : Toml.Value} {k : String}
    (listed : (name, v) ∈ js) (keyed : v.get? "key" = some (.string k)) : k ≠ "" := by
  obtain ⟨c, mem, hc⟩ := exists_of_mem_forall₂ read listed
  have key : c.key = k := by
    have given := (credential_eq_ok.1 hc).2.hasKey
    rw [keyed] at given
    simpa using given.symm
  have kept := List.find?_eq_none.1 noEmpty c mem
  rw [key] at kept
  simpa using kept

/-! ## Comparing digests -/

/-- An OR of XORs is zero exactly when the accumulator starts at zero and every pair agrees. -/
theorem foldl_or_xor_eq_zero (acc : UInt8) (ps : List (UInt8 × UInt8)) :
    ps.foldl (fun acc p => acc ||| (p.1 ^^^ p.2)) acc = 0 ↔ acc = 0 ∧ ∀ p ∈ ps, p.1 = p.2 := by
  induction ps generalizing acc with
  | nil => simp
  | cons p ps ih => simp [ih, and_assoc]

/-- Two lists of one length agree pairwise exactly when they are equal. -/
theorem forall_mem_zip_eq {α : Type} {xs ys : List α} (h : xs.length = ys.length) :
    (∀ p ∈ xs.zip ys, p.1 = p.2) ↔ xs = ys := by
  induction xs generalizing ys with
  | nil => cases ys <;> simp_all
  | cons x xs ih => cases ys <;> simp_all

/-- The mismatch of two digests is zero exactly when they are equal: the fold runs over all
32 byte pairs, and a set bit of any XOR stays set in the OR. -/
theorem digestMismatch_eq_zero_iff (listed given : Vector UInt8 32) :
    digestMismatch listed given = 0 ↔ listed = given := by
  show (listed.toList.zip given.toList).foldl (fun acc p => acc ||| (p.1 ^^^ p.2)) 0 = 0 ↔ _
  rw [foldl_or_xor_eq_zero, forall_mem_zip_eq (by simp), Vector.toList_inj]
  simp

theorem authenticateWith_eq_some {hash : ByteArray → Vector UInt8 32} {auth : JudgeAuth}
    {name key : String} {p : JudgeProfile} :
    auth.authenticateWith hash name key = some p ↔
      ∃ c, auth.judges.find? (·.name == name) = some c ∧ c.profile = p ∧
        hash c.key.toUTF8 = hash key.toUTF8 := by
  unfold authenticateWith
  cases auth.judges.find? (·.name == name) with
  | none => simp
  | some c => simp [digestMismatch_eq_zero_iff, and_comm]

end JudgeAuth

/-! ## Authentication -/

/-- A judge authenticates with the profile and key digest its table in the file gives, and
with nothing else; the file lists no empty key. -/
theorem authentication_matches_listed_digest (hash : ByteArray → Vector UInt8 32) {text : String}
    {auth : JudgeAuth} (accepted : JudgeAuth.parse text = .ok auth) :
    (∀ listed given : Vector UInt8 32, JudgeAuth.digestMismatch listed given = 0 ↔ listed = given) ∧
    ∃ doc, Toml.parse text = .ok doc ∧
      (∀ name v k, (name, v) ∈ judgeTables doc → v.get? "key" = some (.string k) → k ≠ "") ∧
      ∀ name key p, auth.authenticateWith hash name key = some p ↔
        ∃ v k, (judgeTables doc).lookup name = some v ∧ JudgeTable v k p ∧
          hash k.toUTF8 = hash key.toUTF8 := by
  obtain ⟨doc, read, tables, noEmpty⟩ := JudgeAuth.parse_eq_ok accepted
  refine ⟨JudgeAuth.digestMismatch_eq_zero_iff, doc, read,
    fun name v k listed keyed => JudgeAuth.key_ne_empty tables noEmpty listed keyed, ?_⟩
  intro name key p
  rw [JudgeAuth.authenticateWith_eq_some]
  constructor
  · rintro ⟨c, found, rfl, digests⟩
    obtain ⟨v, listed, hc⟩ := (JudgeAuth.find?_name_eq_some tables).1 found
    exact ⟨v, c.key, listed, (JudgeAuth.credential_eq_ok.1 hc).2, digests⟩
  · rintro ⟨v, k, listed, table, digests⟩
    -- the table reads as the credential it describes, and the lookup finds that one
    have hc : JudgeAuth.credential name v = .ok ⟨name, k, p⟩ :=
      JudgeAuth.credential_eq_ok.2 ⟨rfl, table⟩
    exact ⟨⟨name, k, p⟩, (JudgeAuth.find?_name_eq_some tables).2 ⟨v, listed, hc⟩, rfl, digests⟩

/-- Two judges: `alpha` with the defaults, and `beta` on tier 2 and disabled. -/
def twoJudges : String :=
  "[judges.alpha]\nkey = \"alpha-secret\"\n\n" ++
    "[judges.beta]\nkey = \"beta-secret\"\ntier = 2\ndisabled = true\n"

/-- With SHA-256, `beta` gets in with its own key and profile, and `alpha` not with `beta`'s key. -/
theorem authentication_matches_listed_digest_on_two_judges :
    ∃ auth, JudgeAuth.parse twoJudges = .ok auth ∧
      auth.authenticate "beta" "beta-secret" = some ⟨2, true⟩ ∧
      auth.authenticate "alpha" "beta-secret" = none := by
  have parsed : JudgeAuth.parse twoJudges =
      .ok ⟨[⟨"alpha", "alpha-secret", ⟨1, false⟩⟩, ⟨"beta", "beta-secret", ⟨2, true⟩⟩]⟩ := by
    cbv
  have read : Toml.parse twoJudges = .ok (.table [("judges", .table [
      ("alpha", .table [("key", .string "alpha-secret")]),
      ("beta", .table [("key", .string "beta-secret"), ("tier", .integer 2),
        ("disabled", .boolean true)])])]) := by
    cbv
  obtain ⟨-, doc, read', -, authenticates⟩ :=
    authentication_matches_listed_digest Sha256.hash parsed
  rw [read, Except.ok.injEq] at read'
  have alphaTable : (judgeTables doc).lookup "alpha" =
      some (.table [("key", .string "alpha-secret")]) := by
    rw [← read']
    rfl
  have betaTable : (judgeTables doc).lookup "beta" = some (.table [("key", .string "beta-secret"),
      ("tier", .integer 2), ("disabled", .boolean true)]) := by
    rw [← read']
    rfl
  refine ⟨_, parsed, ?_, ?_⟩
  · exact (authenticates "beta" "beta-secret" ⟨2, true⟩).2
      ⟨_, "beta-secret", betaTable, ⟨rfl, .inr ⟨2, rfl, by decide, by decide, rfl⟩, .inr rfl⟩, rfl⟩
  · -- `alpha`'s table gives its own key, whose digest is not `beta`'s
    have differ : Sha256.hash "alpha-secret".toUTF8 ≠ Sha256.hash "beta-secret".toUTF8 := by
      decide +kernel
    refine Option.eq_none_iff_forall_ne_some.2 fun p found => ?_
    obtain ⟨v, k, listed, table, digests⟩ := (authenticates "alpha" "beta-secret" p).1 found
    rw [alphaTable, Option.some.injEq] at listed
    subst listed
    have alphaKey : k = "alpha-secret" := by
      simpa [Toml.Value.get?] using table.hasKey.symm
    exact differ (alphaKey ▸ digests)

end JudgeRelay
