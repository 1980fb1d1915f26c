import JudgeRelay.Proofs.Registry.Outcome

/-!
# Where judges sit

The rest of the relay knows a registered judge by its seat: its id, its name and the link
its session reads (`Judge.seat`). Handing out, queueing and freeing work moves no seat.
Seats change only when a judge leaves or registers.

The registry drops a judge of its own accord only when the judge's link refuses a command.
So while every registered judge's link is open (`Registry.AllOpen`), an operation keeps the
registry's seats and its next id (`Registry.Seated`, `RegistryOp.KeepsSeats`). That holds for
dispatching, aborting, asking judges to leave, enabling and disabling, freeing a judge, and
updating what a judge can grade or its ping. Removing judge `id` leaves the seats of the
registry without it (`seated_remove`). Registering judge `j` leaves the seats of the other
names and adds one new seat under the next id (`seats_register`).
-/

namespace JudgeRelay

/-- What identifies a registered judge to the rest of the relay. -/
structure Seat where
  id : JudgeId
  name : String
  link : LinkId
  deriving DecidableEq, Repr

/-- A judge's seat. -/
def Judge.seat (j : Judge) : Seat := ⟨j.id, j.name, j.link⟩

@[simp] theorem Judge.seat_profile (j : Judge) : j.profile.seat = j.seat := rfl

namespace Registry

/-- The seats of the registered judges. -/
def seats (r : Registry) : List Seat := r.judges.map Judge.seat

theorem mem_seats {r : Registry} {σ : Seat} : σ ∈ r.seats ↔ ∃ j ∈ r.judges, j.seat = σ :=
  List.mem_map

/-- Every registered judge's link is open. -/
def AllOpen (links : Links) (r : Registry) : Prop := ∀ σ ∈ r.seats, links σ.link = true

/-- `r'` seats the judges that `r` seats, and gives the next judge the same id. -/
structure Seated (r r' : Registry) : Prop where
  seats : ∀ σ, σ ∈ r'.seats ↔ σ ∈ r.seats
  nextId : r'.nextId = r.nextId

variable {r r' r'' : Registry} {links : Links}

theorem Seated.refl (r : Registry) : r.Seated r := ⟨fun _ => Iff.rfl, rfl⟩

theorem Seated.trans (h₁ : r.Seated r') (h₂ : r'.Seated r'') : r.Seated r'' :=
  ⟨fun σ => (h₂.seats σ).trans (h₁.seats σ), h₂.nextId.trans h₁.nextId⟩

theorem Seated.allOpen (h : r.Seated r') (opened : r.AllOpen links) : r'.AllOpen links :=
  fun σ member => opened σ ((h.seats σ).1 member)

/-- Whether a judge of a name is registered can be read off the seats. -/
theorem any_name_eq_seats (r : Registry) (n : String) :
    r.judges.any (·.name == n) = r.seats.any (·.name == n) := by
  simp [seats, List.any_map, Function.comp_def, Judge.seat]

theorem Seated.any_name (h : r.Seated r') (n : String) :
    r'.judges.any (·.name == n) = r.judges.any (·.name == n) := by
  rw [any_name_eq_seats, any_name_eq_seats, Bool.eq_iff_iff, List.any_eq_true, List.any_eq_true]
  exact ⟨fun ⟨σ, member, named⟩ => ⟨σ, (h.seats σ).1 member, named⟩,
    fun ⟨σ, member, named⟩ => ⟨σ, (h.seats σ).2 member, named⟩⟩

/-- A change that keeps the list of seats and the next id. -/
theorem seated_of_seats (h : r'.seats = r.seats) (hn : r'.nextId = r.nextId) : r.Seated r' :=
  ⟨fun σ => by rw [h], hn⟩

theorem seated_setWorking (r : Registry) (id : JudgeId) (s : SubmissionId) :
    r.Seated (r.setWorking id s) :=
  seated_of_seats (modifyJudge_map r id _ Judge.seat fun _ => rfl) rfl

theorem seated_give (r : Registry) (id : JudgeId) (req : Request) : r.Seated (r.give id req) :=
  (seated_setWorking r id req.id).trans (seated_of_seats rfl rfl)

/-- A registry that keeps every judge whose link is open, and only judges it had, seats the
same judges when every link was open. -/
theorem seated_of_keepsOpen (opened : r.AllOpen links) (shrinks : r.Shrinks r')
    (kept : r.KeepsOpen links r') : r.Seated r' := by
  refine ⟨fun σ => ⟨fun member => ?_, fun member => ?_⟩, shrinks.nextId⟩
  · obtain ⟨k, mk, rfl⟩ := mem_seats.1 member
    obtain ⟨j, mj, same⟩ := shrinks.mem mk
    exact mem_seats.2 ⟨j, mj, by rw [← Judge.seat_profile, same, Judge.seat_profile]⟩
  · obtain ⟨j, mj, rfl⟩ := mem_seats.1 member
    obtain ⟨k, mk, same⟩ := kept j mj (opened _ (List.mem_map_of_mem mj))
    exact mem_seats.2 ⟨k, mk, by rw [← Judge.seat_profile, same, Judge.seat_profile]⟩

theorem mem_seats_drop {id : JudgeId} {σ : Seat} :
    σ ∈ (r.drop id).seats ↔ σ ∈ r.seats ∧ σ.id ≠ id := by
  simp only [seats, drop_judges, List.mem_map, List.mem_filter, bne_iff_ne]
  constructor
  · rintro ⟨j, ⟨mj, other⟩, rfl⟩
    exact ⟨⟨j, mj, rfl⟩, other⟩
  · rintro ⟨⟨j, mj, rfl⟩, other⟩
    exact ⟨j, ⟨mj, other⟩, rfl⟩

theorem AllOpen.drop (opened : r.AllOpen links) (id : JudgeId) : (r.drop id).AllOpen links :=
  fun σ member => opened σ (mem_seats_drop.1 member).1

/-- In a consistent registry every seat's id is below the next id. -/
theorem Consistent.seat_id_lt (hc : r.Consistent) {σ : Seat} (member : σ ∈ r.seats) :
    σ.id < r.nextId := by
  obtain ⟨j, mj, rfl⟩ := mem_seats.1 member
  exact hc.ids_lt j.id (List.mem_map_of_mem mj)

end Registry

namespace RegistryOp

variable {α : Type} (links : Links)

/-- From a consistent registry whose judges' links are all open, every run of `op` seats the
same judges. -/
def KeepsSeats (op : RegistryOp α) : Prop :=
  ∀ links (s : Registry × Outbox), s.1.Consistent → s.1.AllOpen links →
    s.1.Seated (op.runOn links s).2.1

/-! ## The cascade -/

/-- Offering work and recomputing the serving tier drop no judge while every link is open. -/
theorem seated_cascade (f : Nat) :
    (∀ id (s : Registry × Outbox), s.1.Consistent → s.1.AllOpen links →
      s.1.Seated ((handleFree id f).runOn links s).2.1) ∧
    (∀ s : Registry × Outbox, s.1.Consistent → s.1.AllOpen links →
      s.1.Seated ((updateMinTier f).runOn links s).2.1) :=
  ⟨fun id s hc opened => Registry.seated_of_keepsOpen opened
      ((shrinking_cascade f).1 id links s).1 ((keepsOpen_cascade links f).1 id s hc),
    fun s hc opened => Registry.seated_of_keepsOpen opened
      ((shrinking_cascade f).2.2 links s).1 ((keepsOpen_cascade links f).2.2 s hc)⟩

theorem keepsSeats_offerWork (id : JudgeId) : KeepsSeats (offerWork id) := by
  intro links s hc opened
  rw [runOn_offerWork]
  exact (seated_cascade links _).1 id s hc opened

/-- Work offered in turn to several judges drops none of them. -/
theorem seated_forM_offerWork (ids : List JudgeId) (s : Registry × Outbox) (hc : s.1.Consistent)
    (opened : s.1.AllOpen links) : s.1.Seated ((ids.forM offerWork).runOn links s).2.1 :=
  (forM_invariant links (fun _ t => t.1.Consistent ∧ s.1.Seated t.1)
    (fun x _ t step => ⟨keepsConsistent_offerWork x links t step.1,
      step.2.trans (keepsSeats_offerWork x links t step.1 (step.2.allOpen opened))⟩)
    ids s ⟨hc, Registry.Seated.refl _⟩).2

/-- The registry left by removing judge `id` is one the registry without `id` shrinks to. -/
theorem drop_shrinks_remove (id : JudgeId) (f : Nat) (s : Registry × Outbox) :
    (s.1.drop id).Shrinks ((remove id f).runOn links s).2.1 := by
  cases f with
  | zero =>
    rw [remove_zero]
    exact Registry.Shrinks.refl _
  | succ f =>
    rw [remove_succ]
    rcases found : s.1.find? id with _ | j
    · rw [Registry.drop_eq_self found]
      exact Registry.Shrinks.refl _
    · exact (shrinking_settle f links (s.1.drop id, s.2)).1

/-- Removing judge `id` seats the judges of the registry without it, when their links are
open. -/
theorem seated_remove (id : JudgeId) (f : Nat) (s : Registry × Outbox) (hc : s.1.Consistent)
    (opened : (s.1.drop id).AllOpen links) :
    (s.1.drop id).Seated ((remove id f).runOn links s).2.1 :=
  Registry.seated_of_keepsOpen opened (drop_shrinks_remove links id f s)
    ((keepsOpen_cascade links f).2.1 id s hc)

/-! ## The public operations other than registering and leaving -/

/-- Dispatching a request: a judge whose link is open never refuses it. -/
theorem seated_dispatchLoop (req : Request) (tie : TieBreak) :
    ∀ (f : Nat) (s : Registry × Outbox), s.1.AllOpen links →
      s.1.Seated ((dispatchLoop req tie f).runOn links s).2.1
  | 0, s, _ => by
    rw [dispatchLoop_zero]
    exact Registry.seated_of_seats rfl rfl
  | f + 1, s, opened => by
    rw [dispatchLoop_succ]
    rcases chosen : Registry.pickLeast (tie 0) (s.1.eligible req) with _ | j
    · exact Registry.seated_of_seats rfl rfl
    · obtain ⟨member, -, -, -⟩ := Registry.mem_eligible (Registry.pickLeast_mem chosen)
      have up : links j.link = true := opened j.seat (List.mem_map_of_mem member)
      dsimp only
      rw [if_pos up]
      exact Registry.seated_give _ _ _

theorem keepsSeats_dispatch (req : Request) (tie : TieBreak) : KeepsSeats (dispatch req tie) := by
  intro links s _ opened
  rw [runOn_dispatch]
  split
  · exact Registry.Seated.refl _
  · exact seated_dispatchLoop links req tie _ s opened

theorem keepsSeats_abort (x : SubmissionId) : KeepsSeats (abort x) := by
  intro links s _ _
  rw [runOn_abort]
  split
  · split
    · rw [runOn_send_registry]
      exact Registry.Seated.refl _
    · exact Registry.Seated.refl _
  · exact Registry.seated_of_seats rfl rfl

theorem keepsSeats_disconnect (name : String) (force : Bool) :
    KeepsSeats (disconnect name force) := by
  intro links s _ _
  rw [runOn_disconnect_registry]
  exact Registry.Seated.refl _

theorem keepsSeats_disconnectAll (force : Bool) : KeepsSeats (disconnectAll force) := by
  intro links s _ _
  rw [runOn_disconnectAll_registry]
  exact Registry.Seated.refl _

theorem keepsSeats_setDisabled (name : String) (d : Bool) : KeepsSeats (setDisabled name d) := by
  intro links s hc opened
  rw [runOn_setDisabled]
  dsimp only
  split
  · exact Registry.Seated.refl _
  · -- marking judges disabled moves no seat; the cascade that follows drops none
    have marked : s.1.Seated (s.1.markDisabled name d) := by
      refine Registry.seated_of_seats ?_ rfl
      simp only [Registry.seats, Registry.markDisabled, List.map_map]
      exact List.map_congr_left fun j _ => by
        simp only [Function.comp]
        split <;> rfl
    have hc₁ := hc.markDisabled name d
    have tier := (seated_cascade links (s.1.markDisabled name d).fuel).2
      (s.1.markDisabled name d, s.2) hc₁
      (marked.allOpen opened)
    have hc₂ := (consistent_cascade (s.1.markDisabled name d).fuel).2.2 links
      (s.1.markDisabled name d, s.2) hc₁
    split
    · exact marked.trans (tier.trans (seated_forM_offerWork links _ _ hc₂
        (tier.allOpen (marked.allOpen opened))))
    · exact marked.trans tier

/-- Changing a judge in a way that moves no seat, then offering it work. -/
theorem seated_modify_offerWork {id : JudgeId} (g : Judge → Judge)
    (hg : ∀ j, (g j).id = j.id ∧ (g j).name = j.name ∧ (g j).working = j.working)
    (link : ∀ j, (g j).link = j.link) (s : Registry × Outbox) (hc : s.1.Consistent)
    (opened : s.1.AllOpen links) :
    s.1.Seated ((offerWork id).runOn links (s.1.modifyJudge id g, s.2)).2.1 := by
  have modified : s.1.Seated (s.1.modifyJudge id g) :=
    Registry.seated_of_seats (Registry.modifyJudge_map s.1 id g Judge.seat fun j => by
      simp only [Judge.seat, (hg j).1, (hg j).2.1, link]) rfl
  exact modified.trans (keepsSeats_offerWork id links (s.1.modifyJudge id g, s.2) (hc.modifyJudge hg)
    (modified.allOpen opened))

theorem keepsSeats_setProblems (id : JudgeId) (ps : List String) :
    KeepsSeats (setProblems id ps) := by
  intro links s hc opened
  rw [runOn_setProblems]
  split
  · exact seated_modify_offerWork links (fun j => { j with problems := ps }) (fun _ => ⟨rfl, rfl, rfl⟩) (fun _ => rfl) s hc opened
  · exact Registry.Seated.refl _

theorem keepsSeats_setExecutors (id : JudgeId) (es : List String) :
    KeepsSeats (setExecutors id es) := by
  intro links s hc opened
  rw [runOn_setExecutors]
  split
  · exact seated_modify_offerWork links (fun j => { j with executors := es }) (fun _ => ⟨rfl, rfl, rfl⟩) (fun _ => rfl) s hc opened
  · exact Registry.Seated.refl _

theorem keepsSeats_onJudgeFree (id : JudgeId) (x : SubmissionId) :
    KeepsSeats (onJudgeFree id x) := by
  intro links s hc opened
  rcases found : s.1.find? id with _ | j
  · rw [runOn_onJudgeFree_of_none links x found]
    exact Registry.Seated.refl _
  · rw [runOn_onJudgeFree_of_find links x found]
    -- freeing the judge moves no seat
    have freed : s.1.Seated (s.1.release id x j) := by
      refine Registry.seated_of_seats ?_ (by unfold Registry.release; dsimp only; split <;> split <;> rfl)
      show (s.1.release id x j).judges.map Judge.seat = s.1.judges.map Judge.seat
      rw [Registry.release_judges]
      split
      · exact Registry.modifyJudge_map s.1 id _ Judge.seat fun _ => rfl
      · rfl
    exact freed.trans (keepsSeats_offerWork id links (s.1.release id x j, s.2) (hc.release x found)
      (freed.allOpen opened))

theorem keepsSeats_setPing (id : JudgeId) (load : Option Binary64) (ping : Binary64) :
    KeepsSeats (setPing id load ping) := by
  intro links s _ _
  rw [runOn_setPing]
  exact Registry.seated_of_seats (Registry.modifyJudge_map s.1 id _ Judge.seat fun _ => rfl) rfl

/-! ## Leaving and registering -/

/-- A judge that leaves takes its seat with it, when the other judges' links are open. -/
theorem seated_leave (id : JudgeId) (s : Registry × Outbox) (hc : s.1.Consistent)
    (opened : (s.1.drop id).AllOpen links) :
    (s.1.drop id).Seated ((leave id).runOn links s).2.1 := by
  rw [runOn_leave]
  exact seated_remove links id _ s hc opened

/-- One step of registration's eviction loop: the judge is told to leave, which changes
nothing in the registry, and removed; the registry stays consistent. -/
theorem seated_evict (acc : List SubmissionId) (x : JudgeId) (s : Registry × Outbox)
    (hc : s.1.Consistent) (opened : s.1.AllOpen links) :
    ((evict acc x).runOn links s).2.1.Consistent ∧
      (s.1.drop x).Seated ((evict acc x).runOn links s).2.1 := by
  have removed : ∀ s₁ : Registry × Outbox, s₁.1 = s.1 →
      ((remove x s₁.1.fuel).runOn links s₁).2.1.Consistent ∧
        (s.1.drop x).Seated ((remove x s₁.1.fuel).runOn links s₁).2.1 := by
    intro s₁ same
    have hc₁ : s₁.1.Consistent := same ▸ hc
    have dropped : s₁.1.drop x = s.1.drop x := by rw [same]
    have seated := seated_remove links x s₁.1.fuel s₁ hc₁ (dropped ▸ opened.drop x)
    rw [dropped] at seated
    exact ⟨(consistent_cascade s₁.1.fuel).2.1 x links s₁ hc₁, seated⟩
  rw [runOn_evict]
  dsimp only
  rcases s.1.find? x with _ | old
  · exact removed s rfl
  · exact removed _ (runOn_send_registry links _ _ s)

/-- Registration's eviction loop, from a consistent registry whose links are all open: the
loop keeps the next id and the registry's consistency, and the seats left are those of the
other names. -/
theorem seats_evictions (name : String) (s : Registry × Outbox) (hc : s.1.Consistent)
    (opened : s.1.AllOpen links) :
    let e := ((((s.1.judges.filter (·.name == name)).map (·.id)).foldlM evict []).runOn
      links s).2.1
    e.Consistent ∧ e.nextId = s.1.nextId ∧ ∀ σ, σ ∈ e.seats ↔ σ ∈ s.1.seats ∧ σ.name ≠ name := by
  let stale := (s.1.judges.filter (·.name == name)).map (·.id)
  -- a seat stays until its id comes up in the loop, and the ids still to come are distinct
  obtain ⟨hce, hn, -, -, hseats⟩ := foldlM_invariant links
    (fun _ rest (t : Registry × Outbox) => t.1.Consistent ∧ t.1.nextId = s.1.nextId ∧
      rest.Nodup ∧ (∀ y ∈ rest, y ∈ stale) ∧
      ∀ σ, σ ∈ t.1.seats ↔ σ ∈ s.1.seats ∧ (σ.id ∈ stale → σ.id ∈ rest))
    (fun acc x xs t ⟨hct, hnt, nodup, within, hst⟩ => by
      have openedT : t.1.AllOpen links := fun σ member => opened σ ((hst σ).1 member).1
      obtain ⟨hct', seated⟩ := seated_evict links acc x t hct openedT
      have fresh : x ∉ xs := (List.nodup_cons.1 nodup).1
      refine ⟨hct', seated.nextId.trans ((Registry.shrinks_drop t.1 x).nextId.trans hnt),
        (List.nodup_cons.1 nodup).2, fun y my => within y (List.mem_cons_of_mem x my),
        fun σ => ?_⟩
      rw [seated.seats σ, Registry.mem_seats_drop, hst σ]
      constructor
      · rintro ⟨⟨member, later⟩, other⟩
        refine ⟨member, fun stale => ?_⟩
        rcases List.mem_cons.1 (later stale) with here | there
        · exact absurd here other
        · exact there
      · rintro ⟨member, later⟩
        refine ⟨⟨member, fun stale => List.mem_cons_of_mem x (later stale)⟩, fun same => ?_⟩
        rw [same] at later
        exact fresh (later (within x List.mem_cons_self)))
    stale [] s ⟨hc, rfl, hc.ids_nodup.sublist (List.filter_sublist.map _),
      fun _ my => my, fun σ => ⟨fun member => ⟨member, id⟩, fun h => h.1⟩⟩
  refine ⟨hce, hn, fun σ => ?_⟩
  rw [hseats σ]
  -- an id among those evicted is that of a judge of the name
  have named : σ ∈ s.1.seats → (σ.id ∈ stale ↔ σ.name = name) := by
    intro member
    obtain ⟨j, mj, rfl⟩ := Registry.mem_seats.1 member
    simp only [stale, List.mem_map, List.mem_filter, beq_iff_eq]
    constructor
    · rintro ⟨k, ⟨mk, kname⟩, same⟩
      rw [← hc.eq_of_id_eq mk mj same]
      exact kname
    · intro jname
      exact ⟨j, ⟨mj, jname⟩, rfl⟩
  constructor
  · rintro ⟨member, later⟩
    exact ⟨member, fun same => List.not_mem_nil (later ((named member).2 same))⟩
  · rintro ⟨member, other⟩
    exact ⟨member, fun stale => absurd ((named member).1 stale) other⟩

/-- Registering judge `j` over an open link, from a consistent registry whose links are all
open: the new judge takes the next id, and the registry then seats the judges of the other
names and the new judge. -/
theorem seats_register (j : Judge) (hw : j.working = none) (s : Registry × Outbox)
    (hc : s.1.Consistent) (opened : s.1.AllOpen links) (up : links j.link = true) :
    ((register j).runOn links s).1.1 = s.1.nextId ∧
      ((register j).runOn links s).2.1.nextId = s.1.nextId + 1 ∧
      ∀ σ, σ ∈ ((register j).runOn links s).2.1.seats ↔
        (σ ∈ s.1.seats ∧ σ.name ≠ j.name) ∨ σ = ⟨s.1.nextId, j.name, j.link⟩ := by
  obtain ⟨hce, hn, hseats⟩ := seats_evictions links j.name s hc opened
  rw [runOn_register]
  dsimp only
  generalize (((s.1.judges.filter (·.name == j.name)).map (·.id)).foldlM evict []).runOn
    links s = e at hce hn hseats
  -- the new judge joins under the next id, named unlike every judge left
  have enrolled : ∀ σ, σ ∈ (e.2.1.enroll j).seats ↔
      σ ∈ e.2.1.seats ∨ σ = ⟨e.2.1.nextId, j.name, j.link⟩ := by
    intro σ
    simp only [Registry.seats, Registry.enroll, List.map_append, List.mem_append, List.mem_map,
      List.map_cons, List.map_nil, List.mem_singleton, Judge.seat]
  have hc₁ : (e.2.1.enroll j).Consistent := hce.enroll hw fun k mk same =>
    ((hseats k.seat).1 (List.mem_map_of_mem mk)).2 same
  have opened₁ : (e.2.1.enroll j).AllOpen links := by
    intro σ member
    rcases (enrolled σ).1 member with old | rfl
    · exact opened σ ((hseats σ).1 old).1
    · exact up
  have tier := (seated_cascade links (e.2.1.enroll j).fuel).2 (e.2.1.enroll j, e.2.2) hc₁ opened₁
  have hc₂ := (consistent_cascade (e.2.1.enroll j).fuel).2.2 links (e.2.1.enroll j, e.2.2) hc₁
  generalize ((updateMinTier (e.2.1.enroll j).fuel).runOn links (e.2.1.enroll j, e.2.2)).2 = s₂
    at tier hc₂
  have seated := tier.trans ((seated_cascade links s₂.1.fuel).1 e.2.1.nextId s₂ hc₂
    (tier.allOpen opened₁))
  refine ⟨hn, seated.nextId.trans (by rw [← hn]; rfl), fun σ => ?_⟩
  rw [seated.seats σ, enrolled σ, hseats σ, hn]

end RegistryOp

end JudgeRelay
