import JudgeRelay.Store.Redis
import JudgeRelay.Proofs.Text.Ascii
import Mathlib.Data.List.Dedup

/-!
# The Redis store agrees with the memory store

The relay keeps submissions in a Redis server (`Store.Redis`); the memory store keeps them in
two tables. Over every sequence of submission updates and sweeps, from an empty server and an
empty memory store, the two read the same (`redis_store_agrees_with_memory_store`):

* the `status` field of `bridge:submission:<id>` is the memory store's status of `id`, and the
  set `bridge:submissions:active` holds, in decimal, the ids the memory store has active;
* a submission is active exactly when its status is `QU`, `P` or `G`;
* a sweep answers how many submissions are active, marks each `IE` and empties the active set;
* the events published are the updates in order, each with its submission's id, and the memory
  store records the updates of each id in that order.

The server is a parameter. `RedisServer.Lawful` collects what Redis documents of the commands
the store sends, and `Keyspace` is a server of sets and hashes with those laws. Ids are 64-bit
in the relay, so the theorem assumes that the ids of the updates fit in 64 bits: a larger id
would be added to the active set and then fail to read back in a sweep.

One invariant is carried from call to call: `RedisStore.Mirrors` (the server reads as the
memory store does) with `MemoryStore.Tracks` (the memory store's active list is its in-progress
submissions, each once). An update is a status write and a set change, which move both stores
in step, then a field write and a publish, which change neither; a sweep reads the active set
back as the active ids, since an id reads back from its decimal text.
-/

namespace JudgeRelay

/-! ### Decimal text of ids -/

namespace NumberText

/-- A decimal numeral does not start with a minus sign. -/
theorem natRepr_ne_minus (n : Nat) (t : String) : n.repr ≠ "-" ++ t := by
  intro same
  have first := congrArg (fun s : String => s.toList.head?) same
  rcases digits : Nat.toDigits 10 n with _ | ⟨c, cs⟩
  · exact Nat.toDigits_ne_nil digits
  · have digit := Nat.isDigit_of_mem_toDigits (by decide) (by decide) (digits ▸ List.mem_cons_self)
    simp only [Nat.toList_repr, digits, String.toList_append, List.head?_cons] at first
    have minus : c = '-' := by simpa using first
    subst minus
    exact absurd digit (by decide)

/-- Integers are named by their decimal text. -/
theorem int_toString_injective {a b : Int} (same : toString a = toString b) : a = b := by
  simp only [Int.toString_eq_repr, Int.repr_eq_if] at same
  -- each side is a numeral, with a minus sign when negative
  split at same <;> split at same
  · have := natRepr_injective same
    omega
  · exact absurd same (natRepr_ne_minus _ _)
  · exact absurd same.symm (natRepr_ne_minus _ _)
  · have := natRepr_injective ((String.append_right_inj _).1 same)
    omega

/-- The digits of a numeral, read back. -/
theorem digits_toDigits (k : Nat) :
    ¬(Nat.toDigits 10 k).isEmpty ∧ (Nat.toDigits 10 k).all isDigit = true ∧
      digitsValue (Nat.toDigits 10 k) = k := by
  refine ⟨by simp [Nat.toDigits_ne_nil], ?_, by rw [digitsValue_eq, Nat.ofDigitChars_ten_toDigits]⟩
  rw [List.all_eq_true]
  intro c member
  rw [isDigit_iff]
  exact Nat.isDigit_of_mem_toDigits (by decide) (by decide) member

theorem splitSign_toDigits (k : Nat) :
    splitSign (Nat.toDigits 10 k) = (false, Nat.toDigits 10 k) := by
  rcases digits : Nat.toDigits 10 k with _ | ⟨c, cs⟩
  · exact absurd digits Nat.toDigits_ne_nil
  · have digit := Nat.isDigit_of_mem_toDigits (by decide) (by decide) (digits ▸ List.mem_cons_self)
    have plus : c ≠ '+' := by rintro rfl; exact absurd digit (by decide)
    have minus : c ≠ '-' := by rintro rfl; exact absurd digit (by decide)
    unfold splitSign
    split <;> simp_all

/-- Text that splits into a sign and the digits of `k` reads as `±k`, if that fits. -/
theorem parseI64_of_splitSign {s : String} {neg : Bool} {k : Nat}
    (split : splitSign s.toList = (neg, Nat.toDigits 10 k))
    (fits : fitsI64 (if neg then -(k : Int) else k) = true) :
    parseI64 s = some (if neg then -(k : Int) else k) := by
  obtain ⟨nonempty, all, value⟩ := digits_toDigits k
  unfold parseI64
  rw [split]
  simp only [Bool.not_eq_true] at nonempty
  simp only [nonempty, all, Bool.not_true, Bool.or_false, Bool.false_eq_true, if_false, value]
  rw [if_pos fits]

/-- A 64-bit integer reads back from its decimal text. -/
theorem parseI64_toString {n : Int} (fits : fitsI64 n = true) :
    parseI64 (toString n) = some n := by
  rw [Int.toString_eq_repr, Int.repr_eq_if]
  split
  · next nonneg =>
    have back : ((n.toNat : Nat) : Int) = n := by omega
    have read : parseI64 n.toNat.repr = some (if false then -(n.toNat : Int) else n.toNat) :=
      parseI64_of_splitSign (by rw [Nat.toList_repr, splitSign_toDigits])
        (by rw [if_neg Bool.false_ne_true, back]; exact fits)
    rwa [if_neg Bool.false_ne_true, back] at read
  · next negative =>
    have back : -(((-n).toNat : Nat) : Int) = n := by omega
    have read : parseI64 ("-" ++ (-n).toNat.repr) =
        some (if true then -((-n).toNat : Int) else (-n).toNat) :=
      parseI64_of_splitSign (by rw [String.toList_append, Nat.toList_repr]; rfl)
        (by rw [if_pos rfl, back]; exact fits)
    rwa [if_pos rfl, back] at read

/-- Texts of 64-bit integers read back as the list of those integers. -/
theorem mapM_parseI64 {xs : List String}
    (ids : ∀ x ∈ xs, ∃ id, fitsI64 id = true ∧ x = toString id) :
    xs.mapM parseI64 = some (xs.map fun x => (parseI64 x).getD 0) := by
  induction xs with
  | nil => rfl
  | cons x xs ih =>
    obtain ⟨id, fits, rfl⟩ := ids x List.mem_cons_self
    rw [List.mapM_cons, parseI64_toString fits,
      ih fun y member => ids y (List.mem_cons_of_mem _ member), List.map_cons,
      parseI64_toString fits]
    rfl

end NumberText

/-! ### The server -/

namespace RedisServer

variable {σ : Type} (srv : RedisServer σ)

/-- What Redis documents of the commands the store sends, on a server whose keys hold sets and
hashes. An empty set or hash is no key at all, so a key holds a hash exactly when it has a field
and a set exactly when it has a member; a command on a key of the other type fails. Everything
the store sends reaches the server in order: a transaction only keeps other clients out. -/
structure Lawful : Prop where
  /-- `SMEMBERS` lists each member of the set once. -/
  members_nodup : ∀ s k, (srv.members s k).Nodup
  /-- `SADD` adds the member to the set at the key, unless the key holds a hash. -/
  mem_sadd : ∀ s k x k' y, (∀ f, srv.field s k f = none) →
    (y ∈ srv.members (srv.run s (.sadd k x)) k' ↔ k' = k ∧ y = x ∨ y ∈ srv.members s k')
  /-- `SREM` takes the member out of the set at the key. -/
  mem_srem : ∀ s k x k' y,
    y ∈ srv.members (srv.run s (.srem k x)) k' ↔ y ∈ srv.members s k' ∧ ¬(k' = k ∧ y = x)
  /-- `HSET` sets the fields of the hash at the key in order, so the last value given to a
  field stays, unless the key holds a set. -/
  field_hset : ∀ s k fs k' f, srv.members s k = [] →
    srv.field (srv.run s (.hset k fs)) k' f =
      if k' = k then ((fs.reverse.find? (·.1 == f)).map (·.2)).or (srv.field s k f)
      else srv.field s k' f
  /-- `DEL` removes the key, whatever it holds. -/
  members_del : ∀ s k k', srv.members (srv.run s (.del k)) k' =
    if k' = k then [] else srv.members s k'
  field_del : ∀ s k k' f, srv.field (srv.run s (.del k)) k' f =
    if k' = k then none else srv.field s k' f
  /-- Set commands leave the hashes alone. -/
  field_sadd : ∀ s k x k' f, srv.field (srv.run s (.sadd k x)) k' f = srv.field s k' f
  field_srem : ∀ s k x k' f, srv.field (srv.run s (.srem k x)) k' f = srv.field s k' f
  /-- `HSET` leaves the sets alone. -/
  members_hset : ∀ s k fs k', srv.members (srv.run s (.hset k fs)) k' = srv.members s k'
  /-- `PUBLISH` changes no key. -/
  members_publish : ∀ s c msg k, srv.members (srv.run s (.publish c msg)) k = srv.members s k
  field_publish : ∀ s c msg k f, srv.field (srv.run s (.publish c msg)) k f = srv.field s k f

/-- A server state with no keys. -/
structure Blank (s : σ) : Prop where
  members_nil : ∀ k, srv.members s k = []
  field_none : ∀ k f, srv.field s k f = none

end RedisServer

namespace RedisStore

theorem submissionKey_injective {a b : SubmissionId} (same : submissionKey a = submissionKey b) :
    a = b :=
  NumberText.int_toString_injective ((String.append_right_inj _).1 same)

/-- The active set's key is no submission's key: they part at `submission:` against
`submissions`. -/
theorem submissionKey_ne_activeKey (id : SubmissionId) : submissionKey id ≠ activeKey := by
  intro same
  have split : "bridge:submission" ++ (":" ++ toString id) = "bridge:submission" ++ "s:active" := by
    rw [← String.append_assoc]
    exact same
  have first := congrArg (fun s : String => s.toList.head?) ((String.append_right_inj _).1 split)
  simp [String.toList_append] at first

section Send

variable {σ : Type} (srv : RedisServer σ)

@[simp] theorem send_nil (s : σ) : send srv s [] = s := rfl

@[simp] theorem send_cons (s : σ) (c : RedisCommand) (cs : List RedisCommand) :
    send srv s (c :: cs) = send srv (srv.run s c) cs := rfl

theorem send_append (s : σ) (cs cs' : List RedisCommand) :
    send srv s (cs ++ cs') = send srv (send srv s cs) cs' :=
  List.foldl_append

end Send

/-- An update publishes one event, with the submission's id and the update. -/
theorem published_updateCommands (id : SubmissionId) (u : SubmissionUpdate) :
    (updateCommands id u).filterMap RedisCommand.published? = [(eventChannel, event id u)] := by
  unfold updateCommands
  cases u.status <;> cases ownField u <;> cases u.isFinal <;> rfl

/-- A sweep publishes nothing. -/
theorem published_sweepCommands (ids : List SubmissionId) :
    (sweepCommands ids).filterMap RedisCommand.published? = [] := by
  simp [sweepCommands, RedisCommand.published?]

/-- The field an update writes besides its status is not the status. -/
theorem ownField_ne_status {u : SubmissionUpdate} {f : String × String} (own : ownField u = some f) :
    f.1 ≠ "status" := by
  cases u <;> simp [ownField] at own <;> subst own <;> simp

/-! ### Keys that hold what the store keeps in them -/

variable {σ : Type}

/-- The keys hold the types the store gives them: no hash at the active set's key, and no set at
a submission's key. -/
structure Disciplined (srv : RedisServer σ) (s : σ) : Prop where
  active_no_hash : ∀ f, srv.field s activeKey f = none
  submission_no_set : ∀ id, srv.members s (submissionKey id) = []

/-- The server reads as the memory store does: every submission has the same status, and the
active set holds the decimal ids of the memory store's active submissions. -/
structure Mirrors (srv : RedisServer σ) (s : σ) (m : MemoryStore) : Prop
    extends Disciplined srv s where
  status : ∀ id, srv.field s (submissionKey id) "status" = m.status? id
  active : ∀ x, x ∈ srv.members s activeKey ↔ ∃ id ∈ m.active, x = toString id

theorem Disciplined.of_blank {srv : RedisServer σ} {s : σ} (blank : srv.Blank s) :
    Disciplined srv s :=
  ⟨fun f => blank.field_none _ f, fun _ => blank.members_nil _⟩

theorem Mirrors.of_blank {srv : RedisServer σ} {s : σ} (blank : srv.Blank s) :
    Mirrors srv s {} where
  toDisciplined := .of_blank blank
  status id := blank.field_none _ _
  active x := by simp [blank.members_nil]

/-- Only the memory store's statuses and active list matter. -/
theorem Mirrors.congr {srv : RedisServer σ} {s : σ} {m m' : MemoryStore} (mirrors : Mirrors srv s m)
    (status : ∀ id, m.status? id = m'.status? id) (active : m.active = m'.active) :
    Mirrors srv s m' where
  toDisciplined := mirrors.toDisciplined
  status id := (mirrors.status id).trans (status id)
  active x := active ▸ mirrors.active x

/-- A submission's decimal id is in the active set exactly when the memory store has it active. -/
theorem Mirrors.toString_mem_active {srv : RedisServer σ} {s : σ} {m : MemoryStore}
    (mirrors : Mirrors srv s m) (id : SubmissionId) :
    toString id ∈ srv.members s activeKey ↔ id ∈ m.active := by
  rw [mirrors.active]
  constructor
  · rintro ⟨id', member, named⟩
    rwa [NumberText.int_toString_injective named]
  · exact fun member => ⟨id, member, rfl⟩

section Commands

variable {srv : RedisServer σ} (lawful : srv.Lawful) {s : σ} {m : MemoryStore}
include lawful

theorem Disciplined.hset (d : Disciplined srv s) (id : SubmissionId) (fs : List (String × String)) :
    Disciplined srv (srv.run s (.hset (submissionKey id) fs)) where
  active_no_hash f := by
    rw [lawful.field_hset _ _ _ _ _ (d.submission_no_set id),
      if_neg (submissionKey_ne_activeKey id).symm]
    exact d.active_no_hash f
  submission_no_set id' := by
    rw [lawful.members_hset]
    exact d.submission_no_set id'

theorem Disciplined.sadd (d : Disciplined srv s) (x : String) :
    Disciplined srv (srv.run s (.sadd activeKey x)) where
  active_no_hash f := by
    rw [lawful.field_sadd]
    exact d.active_no_hash f
  submission_no_set id := List.eq_nil_iff_forall_not_mem.2 fun y member => by
    rw [lawful.mem_sadd _ _ _ _ _ d.active_no_hash, d.submission_no_set id] at member
    simp [submissionKey_ne_activeKey] at member

theorem Disciplined.srem (d : Disciplined srv s) (x : String) :
    Disciplined srv (srv.run s (.srem activeKey x)) where
  active_no_hash f := by
    rw [lawful.field_srem]
    exact d.active_no_hash f
  submission_no_set id := List.eq_nil_iff_forall_not_mem.2 fun y member => by
    rw [lawful.mem_srem, d.submission_no_set id] at member
    simp at member

/-- The fields of a submission's hash after `HSET` at some submission's key. -/
theorem field_hset_submission (d : Disciplined srv s) (id id' : SubmissionId)
    (fs : List (String × String)) (f : String) :
    srv.field (srv.run s (.hset (submissionKey id) fs)) (submissionKey id') f =
      if id = id' then ((fs.reverse.find? (·.1 == f)).map (·.2)).or (srv.field s (submissionKey id') f)
      else srv.field s (submissionKey id') f := by
  rw [lawful.field_hset _ _ _ _ _ (d.submission_no_set id)]
  by_cases same : id = id'
  · subst same
    simp
  · rw [if_neg fun key => same (submissionKey_injective key).symm, if_neg same]

/-- Writing a status into a submission's hash writes it into the memory store's statuses. -/
theorem Mirrors.hset_status (mirrors : Mirrors srv s m) (id : SubmissionId)
    {fs : List (String × String)} {code : String}
    (written : (fs.reverse.find? (·.1 == "status")).map (·.2) = some code) :
    Mirrors srv (srv.run s (.hset (submissionKey id) fs))
      { m with statuses := MemoryStore.setAt m.statuses id code } where
  toDisciplined := mirrors.toDisciplined.hset lawful id fs
  status id' := by
    rw [field_hset_submission lawful mirrors.toDisciplined, written, mirrors.status]
    simp [MemoryStore.status?, MemoryStore.getAt_setAt]
  active x := by
    rw [lawful.members_hset]
    exact mirrors.active x

/-- Fields other than the status change nothing the store reads. -/
theorem Mirrors.hset_other (mirrors : Mirrors srv s m) (id : SubmissionId)
    {fs : List (String × String)} (unwritten : (fs.reverse.find? (·.1 == "status")).map (·.2) = none) :
    Mirrors srv (srv.run s (.hset (submissionKey id) fs)) m where
  toDisciplined := mirrors.toDisciplined.hset lawful id fs
  status id' := by
    rw [field_hset_submission lawful mirrors.toDisciplined, unwritten, mirrors.status]
    simp
  active x := by
    rw [lawful.members_hset]
    exact mirrors.active x

theorem Mirrors.sadd (mirrors : Mirrors srv s m) (id : SubmissionId) :
    Mirrors srv (srv.run s (.sadd activeKey (toString id)))
      { m with active := if m.active.contains id then m.active else m.active ++ [id] } where
  toDisciplined := mirrors.toDisciplined.sadd lawful _
  status id' := by
    rw [lawful.field_sadd]
    exact mirrors.status id'
  active x := by
    rw [lawful.mem_sadd _ _ _ _ _ mirrors.active_no_hash, mirrors.active]
    -- the new list has the old members and `id`
    have added : ∀ id', id' ∈ (if m.active.contains id then m.active else m.active ++ [id]) ↔
        id' = id ∨ id' ∈ m.active := by
      intro id'
      split
      · next present =>
        have : id ∈ m.active := by simpa using present
        constructor
        · exact Or.inr
        · rintro (rfl | member) <;> assumption
      · simp [or_comm]
    simp only [added, true_and]
    constructor
    · rintro (rfl | ⟨id', member, rfl⟩)
      · exact ⟨id, Or.inl rfl, rfl⟩
      · exact ⟨id', Or.inr member, rfl⟩
    · rintro ⟨id', rfl | member, rfl⟩
      · exact Or.inl rfl
      · exact Or.inr ⟨id', member, rfl⟩

theorem Mirrors.srem (mirrors : Mirrors srv s m) (id : SubmissionId) :
    Mirrors srv (srv.run s (.srem activeKey (toString id)))
      { m with active := m.active.filter (· != id) } where
  toDisciplined := mirrors.toDisciplined.srem lawful _
  status id' := by
    rw [lawful.field_srem]
    exact mirrors.status id'
  active x := by
    rw [lawful.mem_srem, mirrors.active]
    simp only [true_and, List.mem_filter, bne_iff_ne, ne_eq]
    constructor
    · rintro ⟨⟨id', member, rfl⟩, other⟩
      exact ⟨id', ⟨member, by simpa using fun same => other (congrArg toString same)⟩, rfl⟩
    · rintro ⟨id', ⟨member, other⟩, rfl⟩
      refine ⟨⟨id', member, rfl⟩, fun same => ?_⟩
      exact absurd (NumberText.int_toString_injective same) (by simpa using other)

theorem Mirrors.publish (mirrors : Mirrors srv s m) (c msg : String) :
    Mirrors srv (srv.run s (.publish c msg)) m where
  active_no_hash f := by
    rw [lawful.field_publish]
    exact mirrors.active_no_hash f
  submission_no_set id := by
    rw [lawful.members_publish]
    exact mirrors.submission_no_set id
  status id := by
    rw [lawful.field_publish]
    exact mirrors.status id
  active x := by
    rw [lawful.members_publish]
    exact mirrors.active x

/-- Deleting the active set empties the memory store's active list. -/
theorem Mirrors.del (mirrors : Mirrors srv s m) :
    Mirrors srv (srv.run s (.del activeKey)) { m with active := [] } where
  active_no_hash f := by
    rw [lawful.field_del, if_pos rfl]
  submission_no_set id := by
    rw [lawful.members_del, if_neg (submissionKey_ne_activeKey id)]
    exact mirrors.submission_no_set id
  status id := by
    rw [lawful.field_del, if_neg (submissionKey_ne_activeKey id)]
    exact mirrors.status id
  active x := by
    rw [lawful.members_del, if_pos rfl]
    simp

end Commands

end RedisStore

/-! ### The memory store -/

namespace SubmissionUpdate

/-- An update that sets a status keeps the submission in progress exactly when the status is
`QU`, `P` or `G`. -/
theorem inProgress_iff {u : SubmissionUpdate} {code : String} (sets : u.status = some code) :
    some code ∈ [some "QU", some "P", some "G"] ↔ u.isFinal = false := by
  cases u <;> simp [status] at sets <;> subst sets <;> simp [isFinal]

end SubmissionUpdate

namespace MemoryStore

/-- Setting one value at several keys in turn. -/
theorem getAt_foldl_setAt {α β : Type} [BEq α] [LawfulBEq α] [DecidableEq α] (ks : List α)
    (v : β) (xs : List (α × β)) (k : α) :
    getAt (ks.foldl (fun st k' => setAt st k' v) xs) k = if k ∈ ks then some v else getAt xs k := by
  induction ks generalizing xs with
  | nil => simp
  | cons k' ks ih =>
    rw [List.foldl_cons, ih, getAt_setAt]
    by_cases later : k ∈ ks
    · simp [later]
    · by_cases same : k' = k
      · simp [later, same]
      · have differ : ¬k = k' := fun back => same back.symm
        simp [later, same, differ]

theorem status?_update (m : MemoryStore) (id id' : SubmissionId) (u : SubmissionUpdate) :
    (m.call (.submissionUpdate id u)).2.status? id' =
      if id = id' then u.status.or (m.status? id') else m.status? id' := by
  unfold call status?
  rcases sets : u.status with _ | code <;> simp [getAt_setAt, sets]

theorem updatesOf_update (m : MemoryStore) (id id' : SubmissionId) (u : SubmissionUpdate) :
    (m.call (.submissionUpdate id u)).2.updatesOf id' =
      if id = id' then m.updatesOf id' ++ [u] else m.updatesOf id' := by
  unfold call
  rcases sets : u.status with _ | code <;> by_cases same : id = id' <;>
    simp [updatesOf, getAt_setAt, same, sets]

theorem status?_sweep (m : MemoryStore) (id : SubmissionId) :
    (m.call .sweep).2.status? id = if id ∈ m.active then some "IE" else m.status? id :=
  getAt_foldl_setAt _ _ _ _

/-- What the memory store keeps of its active submissions: each is listed once, they are
exactly the submissions whose status is `QU`, `P` or `G`, and their ids are 64-bit. -/
structure Tracks (m : MemoryStore) : Prop where
  nodup : m.active.Nodup
  active_iff : ∀ id, id ∈ m.active ↔ m.status? id ∈ [some "QU", some "P", some "G"]
  fits : ∀ id ∈ m.active, NumberText.fitsI64 id = true

theorem tracks_empty : Tracks {} where
  nodup := List.nodup_nil
  active_iff id := by simp [status?, getAt]
  fits id := by simp

theorem Tracks.update {m : MemoryStore} (tracks : m.Tracks) (id : SubmissionId)
    (u : SubmissionUpdate) (fits : NumberText.fitsI64 id = true) :
    (m.call (.submissionUpdate id u)).2.Tracks := by
  rcases sets : u.status with _ | code
  · -- an update without a status changes neither the statuses nor the active list
    have status : ∀ id', (m.call (.submissionUpdate id u)).2.status? id' = m.status? id' := by
      intro id'
      rw [status?_update, sets]
      split <;> simp_all
    have active : (m.call (.submissionUpdate id u)).2.active = m.active := by
      simp [call, sets]
    exact ⟨active ▸ tracks.nodup, fun id' => by rw [active, status]; exact tracks.active_iff id',
      active ▸ tracks.fits⟩
  · have progress := SubmissionUpdate.inProgress_iff sets
    have status : ∀ id', (m.call (.submissionUpdate id u)).2.status? id' =
        if id = id' then some code else m.status? id' := by
      intro id'
      rw [status?_update, sets, Option.some_or]
    have active : (m.call (.submissionUpdate id u)).2.active =
        if u.isFinal then m.active.filter (· != id)
        else if m.active.contains id then m.active else m.active ++ [id] := by
      simp [call, sets]
    -- away from `id` the active list keeps its members
    have others : ∀ id', id ≠ id' →
        (id' ∈ (m.call (.submissionUpdate id u)).2.active ↔ id' ∈ m.active) := by
      intro id' differ
      rw [active]
      split
      · simp [Ne.symm differ]
      · split <;> simp [Ne.symm differ]
    refine ⟨?_, fun id' => ?_, fun id' member => ?_⟩
    · rw [active]
      split
      · exact tracks.nodup.filter _
      · split
        · exact tracks.nodup
        · next absent =>
          refine List.nodup_append.2 ⟨tracks.nodup, List.nodup_singleton id, ?_⟩
          intro a member b single
          rw [List.mem_singleton] at single
          subst single
          rintro rfl
          exact absent (by simpa using member)
    · rw [status]
      by_cases same : id = id'
      · subst same
        rw [if_pos rfl, progress, active]
        cases u.isFinal
        · simp only [Bool.false_eq_true, if_false, iff_true]
          split
          · next present => simpa using present
          · simp
        · simp
      · rw [if_neg same, others id' same]
        exact tracks.active_iff id'
    · by_cases same : id = id'
      · exact same ▸ fits
      · exact tracks.fits id' ((others id' same).1 member)

theorem Tracks.sweep {m : MemoryStore} (tracks : m.Tracks) : (m.call .sweep).2.Tracks where
  nodup := List.nodup_nil
  active_iff id := by
    rw [status?_sweep]
    split
    · simp [call]
    · next idle =>
      simpa [call] using mt (tracks.active_iff id).2 idle
  fits id member := by simp [call] at member

/-- The updates each id records, over calls made in turn. -/
theorem updatesOf_callAll (m : MemoryStore) (calls : List SubmissionCall) (id : SubmissionId) :
    (m.callAll (calls.map SubmissionCall.toStoreCall)).2.updatesOf id =
      m.updatesOf id ++ ((calls.flatMap SubmissionCall.updates).filter (·.1 == id)).map (·.2) := by
  induction calls generalizing m with
  | nil => simp [callAll]
  | cons c cs ih =>
    rw [List.map_cons, callAll, ih]
    cases c with
    | update id' u =>
      simp only [SubmissionCall.toStoreCall]
      rw [updatesOf_update]
      by_cases same : id' = id <;> simp [same, SubmissionCall.updates]
    | sweep =>
      simp only [SubmissionCall.toStoreCall, SubmissionCall.updates, List.flatMap_cons,
        List.nil_append]
      rfl

end MemoryStore

/-! ### Calls in step -/

namespace RedisStore

variable {σ : Type} {srv : RedisServer σ} (lawful : srv.Lawful) {s : σ} {m : MemoryStore}
include lawful

/-- The status write and the set change of an update move the server as they move the memory
store. -/
theorem Mirrors.setStatus (mirrors : Mirrors srv s m) (id : SubmissionId) (code : String)
    (final : Bool) :
    Mirrors srv (send srv s [.hset (submissionKey id) [("status", code)],
        if final then .srem activeKey (toString id) else .sadd activeKey (toString id)])
      { m with statuses := MemoryStore.setAt m.statuses id code,
               active := if final then m.active.filter (· != id)
                 else if m.active.contains id then m.active else m.active ++ [id] } := by
  have written : Mirrors srv (srv.run s (.hset (submissionKey id) [("status", code)]))
      { m with statuses := MemoryStore.setAt m.statuses id code } :=
    mirrors.hset_status lawful id (by simp)
  cases final
  · exact written.sadd lawful id
  · exact written.srem lawful id

/-- The rest of an update, its own field and its event, changes nothing the store reads. -/
theorem Mirrors.fieldAndPublish (mirrors : Mirrors srv s m) (id : SubmissionId) (u : SubmissionUpdate) :
    Mirrors srv (send srv s ((ownField u).toList.map (fun f => .hset (submissionKey id) [f]) ++
      [.publish eventChannel (event id u)])) m := by
  rcases own : ownField u with _ | f
  · exact mirrors.publish lawful _ _
  · have other := ownField_ne_status own
    have kept : Mirrors srv (srv.run s (.hset (submissionKey id) [f])) m :=
      mirrors.hset_other lawful id (by simp [other])
    exact kept.publish lawful _ _

theorem Mirrors.update (mirrors : Mirrors srv s m) (id : SubmissionId) (u : SubmissionUpdate) :
    Mirrors srv (send srv s (updateCommands id u)) (m.call (.submissionUpdate id u)).2 := by
  unfold updateCommands
  rw [List.append_assoc, send_append]
  rcases sets : u.status with _ | code
  · -- neither the statuses nor the active list change
    exact (mirrors.fieldAndPublish lawful id u).congr
      (fun id' => by simp [MemoryStore.call, sets, MemoryStore.status?])
      (by simp [MemoryStore.call, sets])
  · exact ((mirrors.setStatus lawful id code u.isFinal).fieldAndPublish lawful id u).congr
      (fun id' => by simp [MemoryStore.call, sets, MemoryStore.status?])
      (by simp [MemoryStore.call, sets])

/-- The writes of a sweep mark every listed submission `IE` and delete the active set. -/
theorem Mirrors.sweepWrites (mirrors : Mirrors srv s m) (ids : List SubmissionId) :
    Mirrors srv (send srv s (sweepCommands ids))
      { m with statuses := ids.foldl (fun st id => MemoryStore.setAt st id "IE") m.statuses,
               active := [] } := by
  unfold sweepCommands
  rw [send_append]
  -- each write marks one submission, in the order of `ids`
  have marked : ∀ (ids : List SubmissionId) (s : σ) (m : MemoryStore), Mirrors srv s m →
      Mirrors srv (send srv s (ids.map fun id =>
          .hset (submissionKey id) [("status", "IE"), ("error", "")]))
        { m with statuses := ids.foldl (fun st id => MemoryStore.setAt st id "IE") m.statuses } := by
    intro ids
    induction ids with
    | nil => exact fun _ _ mirrors => mirrors
    | cons id ids ih =>
      intro s m mirrors
      exact ih _ _ (mirrors.hset_status lawful id (by simp))
  exact (marked ids s m mirrors).del lawful

/-- A sweep reads the active set back as the active ids, answers how many there are, and leaves
the server as the memory store's sweep leaves it. -/
theorem Mirrors.sweep (mirrors : Mirrors srv s m) (tracks : m.Tracks) :
    ∃ s' cmds, RedisStore.sweep srv s = some (m.active.length, s', cmds) ∧
      Mirrors srv s' (m.call .sweep).2 ∧ cmds.filterMap RedisCommand.published? = [] := by
  -- every member of the active set is the text of an active id
  have each : ∀ x ∈ srv.members s activeKey,
      ∃ id, NumberText.fitsI64 id = true ∧ x = toString id := by
    intro x member
    obtain ⟨id, active, rfl⟩ := (mirrors.active x).1 member
    exact ⟨id, tracks.fits id active, rfl⟩
  let ids := (srv.members s activeKey).map fun x => (NumberText.parseI64 x).getD 0
  have read : ∀ id, id ∈ ids ↔ id ∈ m.active := by
    intro id
    simp only [ids, List.mem_map]
    constructor
    · rintro ⟨x, member, rfl⟩
      obtain ⟨id', active, rfl⟩ := (mirrors.active x).1 member
      rw [NumberText.parseI64_toString (tracks.fits id' active)]
      exact active
    · intro active
      refine ⟨toString id, (mirrors.active _).2 ⟨id, active, rfl⟩, ?_⟩
      rw [NumberText.parseI64_toString (tracks.fits id active)]
      rfl
  -- the active set and the decimal active ids are one set, each without repeats
  have same : (srv.members s activeKey).Perm (m.active.map toString) := by
    refine (List.perm_ext_iff_of_nodup (lawful.members_nodup _ _)
      (tracks.nodup.map fun _ _ => NumberText.int_toString_injective)).2 fun x => ?_
    rw [mirrors.active x, List.mem_map]
    exact ⟨fun ⟨id, active, named⟩ => ⟨id, active, named.symm⟩,
      fun ⟨id, active, named⟩ => ⟨id, active, named.symm⟩⟩
  have count : ids.length = m.active.length := by
    rw [List.length_map, same.length_eq, List.length_map]
  refine ⟨send srv s (sweepCommands ids), sweepCommands ids, ?_, ?_, published_sweepCommands ids⟩
  · simp only [RedisStore.sweep, NumberText.mapM_parseI64 each]
    rw [← count]
    rfl
  · refine (mirrors.sweepWrites lawful ids).congr (fun id => ?_) rfl
    show MemoryStore.getAt _ id = (m.call .sweep).2.status? id
    rw [MemoryStore.getAt_foldl_setAt, MemoryStore.status?_sweep]
    simp only [read, MemoryStore.status?]

/-- One call, answered alike by both stores. -/
theorem Mirrors.call (mirrors : Mirrors srv s m) (tracks : m.Tracks) (c : SubmissionCall)
    (ids64 : ∀ p ∈ c.updates, NumberText.fitsI64 p.1 = true) :
    ∃ s' cmds, RedisStore.call srv s c = some ((m.call c.toStoreCall).1, s', cmds) ∧
      Mirrors srv s' (m.call c.toStoreCall).2 ∧ (m.call c.toStoreCall).2.Tracks ∧
      cmds.filterMap RedisCommand.published? = c.updates.map fun p => (eventChannel, event p.1 p.2) := by
  cases c with
  | update id u =>
    exact ⟨_, _, rfl, mirrors.update lawful id u,
      tracks.update id u (ids64 (id, u) (List.mem_singleton_self _)), published_updateCommands id u⟩
  | sweep =>
    obtain ⟨s', cmds, swept, mirrors', published⟩ := mirrors.sweep lawful tracks
    refine ⟨s', cmds, ?_, mirrors', tracks.sweep, published⟩
    simp [RedisStore.call, swept, SubmissionCall.toStoreCall, MemoryStore.call]

/-- Calls in turn, answered alike by both stores. -/
theorem Mirrors.callAll (mirrors : Mirrors srv s m) (tracks : m.Tracks) (calls : List SubmissionCall)
    (ids64 : ∀ p ∈ calls.flatMap SubmissionCall.updates, NumberText.fitsI64 p.1 = true) :
    ∃ s' cmds, RedisStore.callAll srv s calls =
        some ((m.callAll (calls.map SubmissionCall.toStoreCall)).1, s', cmds) ∧
      Mirrors srv s' (m.callAll (calls.map SubmissionCall.toStoreCall)).2 ∧
      (m.callAll (calls.map SubmissionCall.toStoreCall)).2.Tracks ∧
      cmds.filterMap RedisCommand.published? =
        (calls.flatMap SubmissionCall.updates).map fun p => (eventChannel, event p.1 p.2) := by
  induction calls generalizing s m with
  | nil => exact ⟨s, [], rfl, mirrors, tracks, rfl⟩
  | cons c cs ih =>
    obtain ⟨s₁, cmds₁, answered, mirrors₁, tracks₁, published₁⟩ :=
      mirrors.call lawful tracks c fun p member => ids64 p (by simp [member])
    obtain ⟨s₂, cmds₂, rest, mirrors₂, tracks₂, published₂⟩ :=
      ih mirrors₁ tracks₁ fun p member => ids64 p (by simp [member])
    refine ⟨s₂, cmds₁ ++ cmds₂, ?_, mirrors₂, tracks₂, ?_⟩
    · simp [RedisStore.callAll, answered, rest, MemoryStore.callAll]
    · rw [List.filterMap_append, published₁, published₂, List.flatMap_cons, List.map_append]

end RedisStore

open RedisStore in
/-- From an empty server and an empty memory store, every sequence of submission updates and
sweeps with 64-bit ids is answered alike by the two stores, and leaves them reading alike: the
same status for every submission, and the active set holding the decimal ids of the memory
store's active submissions; in both, those are the submissions with status `QU`, `P` or `G`. A
sweep then answers
how many are active, marks each `IE` and empties the active set. The events published are the
updates in order, and the memory store records each submission's updates in that order. -/
theorem redis_store_agrees_with_memory_store {σ : Type} {srv : RedisServer σ}
    (lawful : srv.Lawful) {s₀ : σ} (blank : srv.Blank s₀) (calls : List SubmissionCall)
    (ids64 : ∀ p ∈ calls.flatMap SubmissionCall.updates, NumberText.fitsI64 p.1 = true) :
    let memory := MemoryStore.callAll {} (calls.map SubmissionCall.toStoreCall)
    ∃ s cmds, RedisStore.callAll srv s₀ calls = some (memory.1, s, cmds) ∧
      (∀ id, srv.field s (submissionKey id) "status" = memory.2.status? id) ∧
      (∀ x, x ∈ srv.members s activeKey ↔ ∃ id ∈ memory.2.active, x = toString id) ∧
      (∀ id, id ∈ memory.2.active ↔ memory.2.status? id ∈ [some "QU", some "P", some "G"]) ∧
      (∀ id, toString id ∈ srv.members s activeKey ↔
        srv.field s (submissionKey id) "status" ∈ [some "QU", some "P", some "G"]) ∧
      (∃ s' more, RedisStore.sweep srv s = some (memory.2.active.length, s', more) ∧
        srv.members s' activeKey = [] ∧
        ∀ id, srv.field s' (submissionKey id) "status" =
          if id ∈ memory.2.active then some "IE" else memory.2.status? id) ∧
      cmds.filterMap RedisCommand.published? =
        (calls.flatMap SubmissionCall.updates).map (fun p => (eventChannel, event p.1 p.2)) ∧
      ∀ id, memory.2.updatesOf id =
        ((calls.flatMap SubmissionCall.updates).filter (·.1 == id)).map (·.2) := by
  intro memory
  obtain ⟨s, cmds, answered, mirrors, tracks, published⟩ :=
    (Mirrors.of_blank blank).callAll lawful MemoryStore.tracks_empty calls ids64
  obtain ⟨s', more, swept, swept_mirrors, -⟩ := mirrors.sweep lawful tracks
  refine ⟨s, cmds, answered, mirrors.status, mirrors.active, tracks.active_iff, fun id => ?_,
    ⟨s', more, swept, ?_, fun id => ?_⟩, published, fun id => ?_⟩
  · rw [mirrors.toString_mem_active, tracks.active_iff, mirrors.status]
  · -- the memory store's sweep leaves no active submission
    refine List.eq_nil_iff_forall_not_mem.2 fun x member => ?_
    obtain ⟨id, idle, -⟩ := (swept_mirrors.active x).1 member
    simp [MemoryStore.call] at idle
  · rw [swept_mirrors.status, MemoryStore.status?_sweep]
  · rw [MemoryStore.updatesOf_callAll]
    rfl

/-! ### A server of sets and hashes -/

/-- A server that keeps, at each key, a set as a list of members and a hash as a list of fields,
the latest write first; an empty list is no key. -/
structure Keyspace where
  sets : String → List String
  hashes : String → List (String × String)

namespace Keyspace

/-- No keys. -/
def empty : Keyspace := ⟨fun _ => [], fun _ => []⟩

/-- Runs a command. A command on a key that holds the other type fails and changes nothing. -/
def run (s : Keyspace) : RedisCommand → Keyspace
  | .sadd k x =>
    if s.hashes k = [] then
      { s with sets := fun k' => if k' = k then x :: s.sets k else s.sets k' }
    else s
  | .srem k x => { s with sets := fun k' => if k' = k then (s.sets k).filter (· != x) else s.sets k' }
  | .del k => ⟨fun k' => if k' = k then [] else s.sets k', fun k' => if k' = k then [] else s.hashes k'⟩
  | .hset k fs =>
    if s.sets k = [] then
      { s with hashes := fun k' => if k' = k then fs.reverse ++ s.hashes k else s.hashes k' }
    else s
  | .publish _ _ => s

/-- The server: `SMEMBERS` lists a set without repeats, and `HGET` reads a field's latest write. -/
def server : RedisServer Keyspace where
  run := run
  members s k := (s.sets k).dedup
  field s k f := ((s.hashes k).find? (·.1 == f)).map (·.2)

/-- A key without fields holds no hash. -/
theorem hashes_eq_nil {s : Keyspace} {k : String} (none : ∀ f, server.field s k f = none) :
    s.hashes k = [] := by
  rcases fields : s.hashes k with _ | ⟨⟨f, v⟩, rest⟩
  · rfl
  · have first := none f
    simp [server, fields] at first

theorem lawful : server.Lawful where
  members_nodup s k := List.nodup_dedup _
  mem_sadd s k x k' y none := by
    simp only [server, run, if_pos (hashes_eq_nil none), List.mem_dedup]
    by_cases same : k' = k <;> simp [same]
  mem_srem s k x k' y := by
    simp only [server, run, List.mem_dedup]
    by_cases same : k' = k <;> simp [same]
  field_hset s k fs k' f unset := by
    have noSet : s.sets k = [] := (List.dedup_eq_nil _).1 unset
    simp only [server, run, if_pos noSet]
    by_cases same : k' = k <;> simp [same, List.find?_append, Option.map_or]
  members_del s k k' := by
    simp only [server, run]
    split <;> simp
  field_del s k k' f := by
    simp only [server, run]
    split <;> simp
  field_sadd s k x k' f := by
    simp only [server, run]
    split <;> rfl
  field_srem s k x k' f := rfl
  members_hset s k fs k' := by
    simp only [server, run]
    split <;> rfl
  members_publish s c msg k := rfl
  field_publish s c msg k f := rfl

theorem blank_empty : server.Blank empty := ⟨fun _ => rfl, fun _ _ => rfl⟩

end Keyspace

open RedisStore in
/-- Two submissions queued, the first graded to its end, a sweep, then a compile message: the
keyspace server and the memory store agree. -/
theorem keyspace_agrees_with_memory_store :
    let calls := [SubmissionCall.update 1 .queued, .update 2 .queued, .update 1 (.processing "a"),
      .update 1 .gradingEnd, .sweep, .update 3 (.compileMessage "")]
    let memory := MemoryStore.callAll {} (calls.map SubmissionCall.toStoreCall)
    Keyspace.server.Lawful ∧ Keyspace.server.Blank Keyspace.empty ∧
    (∀ p ∈ calls.flatMap SubmissionCall.updates, NumberText.fitsI64 p.1 = true) ∧
    ∃ s cmds, RedisStore.callAll Keyspace.server Keyspace.empty calls = some (memory.1, s, cmds) ∧
      (∀ id, Keyspace.server.field s (submissionKey id) "status" = memory.2.status? id) ∧
      (∀ x, x ∈ Keyspace.server.members s activeKey ↔ ∃ id ∈ memory.2.active, x = toString id) ∧
      (∀ id, id ∈ memory.2.active ↔ memory.2.status? id ∈ [some "QU", some "P", some "G"]) ∧
      (∀ id, toString id ∈ Keyspace.server.members s activeKey ↔
        Keyspace.server.field s (submissionKey id) "status" ∈ [some "QU", some "P", some "G"]) ∧
      (∃ s' more, RedisStore.sweep Keyspace.server s = some (memory.2.active.length, s', more) ∧
        Keyspace.server.members s' activeKey = [] ∧
        ∀ id, Keyspace.server.field s' (submissionKey id) "status" =
          if id ∈ memory.2.active then some "IE" else memory.2.status? id) ∧
      cmds.filterMap RedisCommand.published? =
        (calls.flatMap SubmissionCall.updates).map (fun p => (eventChannel, event p.1 p.2)) ∧
      ∀ id, memory.2.updatesOf id =
        ((calls.flatMap SubmissionCall.updates).filter (·.1 == id)).map (·.2) := by
  intro calls memory
  have ids64 : ∀ p ∈ calls.flatMap SubmissionCall.updates, NumberText.fitsI64 p.1 = true := by
    decide
  exact ⟨Keyspace.lawful, Keyspace.blank_empty, ids64,
    redis_store_agrees_with_memory_store Keyspace.lawful Keyspace.blank_empty calls ids64⟩

end JudgeRelay
