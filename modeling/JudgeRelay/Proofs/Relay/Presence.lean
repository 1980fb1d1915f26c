import JudgeRelay.Proofs.Relay.Running
import JudgeRelay.Proofs.Registry.Seats

/-!
# The store's record of which judges are online

The store keeps a record for every judge name, online or not (`Store.online`). The relay
writes it in two places. A judge's task records the name online right after registering the
judge. A closing task records it offline once no judge of that name is registered any more.
Between those writes the registry changes only by operations that move no seat
(`Registry.Seated`). They drop a judge only when its link refuses a command, and a registered
judge's link stays open until its own task closes it, just before the judge leaves.

The invariant kept at every moment a task can be interrupted (`Presence.Seating`) says three
things:

* every registered judge's link is open;
* every session sits where it was registered (`Seat.Held`): no other judge has its id or its
  link, so the judge that leaves with a session is its own, and takes only its name along;
* when the task is at rest, the store records online exactly the names of registered judges
  (`World.Recorded`).

While task `t` runs session `s`, the invariant is `Presence.Serving T t s`. A task that serves
no session keeps `Presence.Vacant T t`, and a relay at rest keeps `Presence.Settled`. This
module shows that serving a judge, closing a session and admitting a judge end settled.
-/

namespace JudgeRelay

/-! ## What the store records of judges -/

/-- What a store call does to the record of the judges named `n`: whether one is online. -/
def StoreCall.presence (c : StoreCall) (n : String) (online : Bool) : Bool :=
  match c with
  | .resetJudges => false
  | .judgeOnline a => a.name == n || online
  | .judgeOffline m => m != n && online
  | _ => online

/-- Whether a call leaves every judge name online or offline as it was. -/
def StoreCall.keepsPresence : StoreCall → Bool
  | .resetJudges | .judgeOnline _ | .judgeOffline _ => false
  | _ => true

theorem StoreCall.presence_of_keepsPresence {c : StoreCall} (keeps : c.keepsPresence = true)
    (n : String) (online : Bool) : c.presence n online = online := by
  cases c <;> simp_all [keepsPresence, presence]

/-- Whether the store records a judge named `n` as online. A call log records what it was
told. -/
def Store.online : Store → String → Bool
  | .log l, n => l.calls.foldl (fun online c => c.presence n online) false
  | .memory m, n => ((m.judge? n).map (·.online)).getD false

/-- A call changes the record of a name as `StoreCall.presence` says, in either store. -/
theorem Store.online_call (s : Store) (c : StoreCall) (n : String) :
    (s.call c).2.online n = c.presence n (s.online n) := by
  cases s with
  | log l =>
    have logged : (l.call c).2 = { l with calls := l.calls ++ [c] } := by
      unfold CallLog.call
      dsimp only
      split
      · rfl
      · split <;> try split
        all_goals rfl
    simp [Store.call, logged, Store.online, List.foldl_append]
  | memory m =>
    cases c with
    | resetJudges =>
      simp only [Store.call, MemoryStore.call, Store.online, StoreCall.presence,
        MemoryStore.judge?]
      rw [MemoryStore.getAt_map]
      generalize m.judges.find? (·.1 == n) = found
      cases found <;> rfl
    | judgeOnline a =>
      simp only [Store.call, MemoryStore.call, Store.online, StoreCall.presence,
        MemoryStore.judge?]
      rw [MemoryStore.getAt_setAt]
      by_cases same : a.name = n <;> simp [same]
    | judgeOffline name =>
      simp only [Store.call, MemoryStore.call, Store.online, StoreCall.presence,
        MemoryStore.judge?]
      rw [MemoryStore.getAt_map]
      unfold MemoryStore.getAt
      rcases found : m.judges.find? (·.1 == n) with _ | p
      · rw [found]
        simp
      · have key : p.1 = n := by simpa using List.find?_some found
        rw [found]
        by_cases same : name = n
        · simp [key, same, MemoryStore.absent]
        · simp [key, same, Ne.symm same]
    | judgePing name ping load =>
      simp only [Store.call, MemoryStore.call, Store.online, StoreCall.presence,
        MemoryStore.judge?]
      rw [MemoryStore.getAt_map]
      unfold MemoryStore.getAt
      generalize m.judges.find? (·.1 == n) = found
      cases found with
      | none => rfl
      | some p =>
        simp only [Option.map_some, Option.getD_some]
        split <;> rfl
    | submissionUpdate id u =>
      simp only [Store.call, MemoryStore.call, Store.online, StoreCall.presence,
        MemoryStore.judge?]
      split <;> rfl
    | sweep => rfl
    | problemLimits => rfl

/-! ## Where sessions sit -/

/-- Where a session sits: its judge's id and name, and its link. -/
def Session.seat (s : Session) : Seat := ⟨s.judgeId, s.name, s.link⟩

-- Stated for any time, so that moving a session's ping never makes the kernel compare times.
theorem Session.seat_nextPing (s : Session) (n : Nat) :
    ({ s with nextPing := n } : Session).seat = s.seat := rfl

/-- The seat of each task's session. -/
def seatsOf (T : Array Task) (t : TaskId) : Option Seat := (sessionsOf T t).map Session.seat

theorem seatsOf_set_idle {T : Array Task} (t : TaskId) {task : Task} (idle : task.session? = none) :
    seatsOf (T.set! t task) = Function.update (seatsOf T) t none := by
  funext t'
  simp only [seatsOf, sessionsOf_set_idle t idle]
  by_cases same : t' = t
  · subst same
    simp
  · simp [same, seatsOf]

theorem seatsOf_set {T : Array Task} {t : TaskId} (inside : t < T.size) (task : Task) :
    seatsOf (T.set! t task) = Function.update (seatsOf T) t (task.session?.map Session.seat) := by
  funext t'
  simp only [seatsOf, sessionsOf_set inside]
  by_cases same : t' = t
  · subst same
    simp
  · simp [same, seatsOf]

theorem seatsOf_push {T : Array Task} {task : Task} (idle : task.session? = none) :
    seatsOf (T.push task) = seatsOf T := by
  unfold seatsOf
  rw [sessionsOf_push idle]

theorem Registry.any_name_iff {r : Registry} {n : String} :
    r.judges.any (·.name == n) = true ↔ ∃ σ ∈ r.seats, σ.name = n := by
  rw [Registry.any_name_eq_seats, List.any_eq_true]
  simp

namespace World

/-- Whether a judge of name `n` is registered. -/
def names (w : World) (n : String) : Bool := w.registry.judges.any (·.name == n)

/-- The store records online exactly the names of registered judges. -/
def Recorded (w : World) : Prop := w.store.online = w.names

theorem names_iff {w : World} {n : String} :
    w.names n = true ↔ ∃ σ ∈ w.registry.seats, σ.name = n :=
  Registry.any_name_iff

/-- An open link is one of the links. -/
theorem linkOpen_lt {w : World} {l : LinkId} (up : w.linkOpen l = true) : l < w.links.size := by
  unfold linkOpen at up
  rcases found : w.links[l]? with _ | link
  · rw [found] at up
    cases up
  · exact (Array.getElem?_eq_some_iff.1 found).1

end World

/-- A session sitting at `σ`: its judge's id was handed out and its link opened, and a
registered judge with its id or on its link is its own judge. -/
structure Seat.Held (σ : Seat) (w : World) : Prop where
  id_lt : σ.id < w.registry.nextId
  link_lt : σ.link < w.links.size
  own : ∀ τ ∈ w.registry.seats, τ.id = σ.id ∨ τ.link = σ.link → τ = σ

/-- A seat stays held while the registry keeps only seats it had and the next id, and the
links stay as many. -/
theorem Seat.Held.mono {σ : Seat} {w w' : World} (held : σ.Held w)
    (seats : ∀ τ ∈ w'.registry.seats, τ ∈ w.registry.seats)
    (nextId : w'.registry.nextId = w.registry.nextId) (size : w'.links.size = w.links.size) :
    σ.Held w' :=
  ⟨nextId ▸ held.id_lt, size ▸ held.link_lt, fun τ member => held.own τ (seats τ member)⟩

section Enroll

/-! A judge registers: the registry gains its seat `ν`, under the next id and on the link just
opened, and keeps only seats it had. -/

variable {ν : Seat} {w w' : World}
  (seats : ∀ τ ∈ w'.registry.seats, τ ∈ w.registry.seats ∨ τ = ν)
  (idNext : ν.id = w.registry.nextId) (linkNew : ν.link = w.links.size)
  (nextId : w'.registry.nextId = w.registry.nextId + 1) (size : w'.links.size = w.links.size + 1)
include seats idNext linkNew nextId size

/-- A seat held before is still held: the new judge's id and link are past its own. -/
theorem Seat.Held.enroll {σ : Seat} (held : σ.Held w) : σ.Held w' := by
  refine ⟨?_, ?_, fun τ member same => ?_⟩
  · rewrite [nextId]
    exact Nat.lt_succ_of_lt held.id_lt
  · rewrite [size]
    exact Nat.lt_succ_of_lt held.link_lt
  · rcases seats τ member with old | rfl
    · exact held.own τ old same
    · rcases same with same | same
      · exact absurd (same.symm.trans idNext) (Nat.ne_of_lt held.id_lt)
      · exact absurd (same.symm.trans linkNew) (Nat.ne_of_lt held.link_lt)

/-- The new judge's seat is held, when every seat before it is below the next id and the new
link. -/
theorem Seat.held_enroll
    (below : ∀ τ ∈ w.registry.seats, τ.id < w.registry.nextId ∧ τ.link < w.links.size) :
    ν.Held w' := by
  refine ⟨?_, ?_, fun τ member same => ?_⟩
  · rewrite [nextId, idNext]
    exact Nat.lt_succ_self _
  · rewrite [size, linkNew]
    exact Nat.lt_succ_self _
  · rcases seats τ member with old | rfl
    · rcases same with same | same
      · exact absurd (same.trans idNext) (Nat.ne_of_lt (below τ old).1)
      · exact absurd (same.trans linkNew) (Nat.ne_of_lt (below τ old).2)
    · rfl

end Enroll

/-- `w'` keeps what the presence invariant reads of `w`: the registry seats the same judges,
and stays reachable; the store records the same names online; the links are as open as they
were, and the tasks are the same. -/
structure World.Steady (w w' : World) : Prop where
  seated : w.registry.Seated w'.registry
  reachable : w.registry.Reachable → w'.registry.Reachable
  online : w'.store.online = w.store.online
  linkOpen : w'.linkOpen = w.linkOpen
  size : w'.links.size = w.links.size
  tasks : w'.tasks = w.tasks

namespace World

variable {w w' w'' : World}

theorem Steady.refl (w : World) : w.Steady w :=
  ⟨Registry.Seated.refl _, id, rfl, rfl, rfl, rfl⟩

theorem Steady.trans (h₁ : w.Steady w') (h₂ : w'.Steady w'') : w.Steady w'' :=
  ⟨h₁.seated.trans h₂.seated, h₂.reachable ∘ h₁.reachable, h₂.online.trans h₁.online,
    h₂.linkOpen.trans h₁.linkOpen, h₂.size.trans h₁.size, h₂.tasks.trans h₁.tasks⟩

theorem Steady.names (h : w.Steady w') : w'.names = w.names :=
  funext h.seated.any_name

theorem Steady.allOpen (h : w.Steady w') (opened : w.registry.AllOpen w.linkOpen) :
    w'.registry.AllOpen w'.linkOpen := by
  rw [h.linkOpen]
  exact h.seated.allOpen opened

theorem Steady.recorded (h : w.Steady w') (recorded : w.Recorded) : w'.Recorded := by
  unfold Recorded
  rw [h.online, h.names]
  exact recorded

theorem Steady.held (h : w.Steady w') {σ : Seat} (held : σ.Held w) : σ.Held w' :=
  held.mono (fun τ member => (h.seated.seats τ).1 member) h.seated.nextId h.size


end World

/-! ## Steps that keep the seats and the records -/

namespace Act

variable {α β γ : Type}

/-- From a world whose registry is reachable and whose registered judges' links are open,
`a` keeps every seat and every record. -/
def Steady (a : Act α) : Prop :=
  ∀ w : World, w.registry.Reachable → w.registry.AllOpen w.linkOpen → w.Steady (a.run w).2

theorem Steady.bind {x : Act α} {f : α → Act β} (hx : x.Steady) (hf : ∀ v, (f v).Steady) :
    (x >>= f).Steady := by
  intro w reachable opened
  have first := hx w reachable opened
  exact first.trans (hf _ _ (first.reachable reachable) (first.allOpen opened))

theorem Steady.pure (v : α) : (Pure.pure v : Act α).Steady := fun w _ _ => World.Steady.refl w

theorem Steady.forM {g : γ → Act PUnit} (hg : ∀ x, (g x).Steady) :
    ∀ xs : List γ, (xs.forM g).Steady
  | [] => Steady.pure _
  | x :: xs => Steady.bind (hg x) fun _ => Steady.forM hg xs

/-- A steady step keeps a world steady from `w₀` while its registry is reachable and its
judges' links are open, so a run of steady steps is steady as a triple says. -/
theorem Steady.since {a : Act α} (h : a.Steady) (w₀ : World) :
    Triple (fun w => w₀.Steady w ∧ w.registry.Reachable ∧ w.registry.AllOpen w.linkOpen) a
      fun _ w => w₀.Steady w ∧ w.registry.Reachable ∧ w.registry.AllOpen w.linkOpen :=
  fun w ⟨steady, reachable, opened⟩ =>
    have step := h w reachable opened
    ⟨steady.trans step, step.reachable reachable, step.allOpen opened⟩

/-- A quiet step that leaves the store's records alone. -/
theorem Quiet.steady {a : Act α} (h : Quiet a)
    (online : ∀ w, (a.run w).2.store.online = w.store.online) : a.Steady := by
  intro w _ _
  obtain ⟨registry, links, tasks⟩ := h w
  refine ⟨?_, fun reachable => registry ▸ reachable, online w, ?_, by rw [links], tasks⟩
  · rw [registry]
    exact Registry.Seated.refl _
  · unfold World.linkOpen
    rw [links]

theorem steady_now : now.Steady := quiet_now.steady fun _ => rfl

theorem steady_wake (t : TaskId) : (wake t).Steady :=
  (quiet_wake t).steady fun w => by
    show (if w.ready.contains t then w else { w with ready := w.ready ++ [t] }).store.online = _
    split <;> rfl

theorem steady_modifyConn (c : ConnId) (f : Conn → Conn) : (modifyConn c f).Steady :=
  (quiet_modifyConn c f).steady fun _ => rfl

theorem steady_onConn (c : ConnId) (f : Conn → α × Conn) (d : α) : (onConn c f d).Steady :=
  (quiet_onConn c f d).steady fun w => by
    unfold onConn
    simp only [run_bind, run_get]
    split <;> rfl

/-- A calm step touches neither the registry, the links, the tasks nor the store. -/
theorem Calm.steady {a : Act α} (h : Calm a) : a.Steady :=
  h.1.steady fun w => by rw [h.2 w]

theorem steady_sendPacket (c : ConnId) (packet : Json.Value) : (sendPacket c packet).Steady :=
  (calm_sendPacket c packet).steady

/-- A store call that keeps every name's record. -/
theorem steady_store {call : StoreCall} (keeps : call.keepsPresence = true) :
    (Act.store call).Steady :=
  (quiet_store call).steady fun w => funext fun n => by
    show (w.store.call call).2.online n = w.store.online n
    rw [Store.online_call, StoreCall.presence_of_keepsPresence keeps]

theorem steady_takeCommand (l : LinkId) : (takeCommand l).Steady := by
  intro w _ _
  rw [takeCommand_run]
  split
  · next link found =>
    split
    · next c rest _ =>
      have inside : l < w.links.size := (Array.getElem?_eq_some_iff.1 found).1
      refine ⟨Registry.Seated.refl _, id, rfl, ?_, by simp, rfl⟩
      funext l'
      unfold World.linkOpen
      by_cases here : l = l'
      · subst here
        simp [inside, (Array.getElem?_eq_some_iff.1 found).2]
      · simp [here]
    · exact World.Steady.refl w
  · exact World.Steady.refl w

theorem steady_deliver (l : LinkId) (c : Command) : (deliver l c).Steady := by
  intro w _ _
  unfold deliver
  simp only [run_bind, run_get]
  split
  · next link found =>
    simp only [run_bind, run_set]
    let w₁ := { w with links := w.links.set! l { link with inbox := link.inbox ++ [c] } }
    have inside : l < w.links.size := (Array.getElem?_eq_some_iff.1 found).1
    have delivered : w.Steady w₁ := by
      refine ⟨Registry.Seated.refl _, id, rfl, ?_, by simp [w₁], rfl⟩
      funext l'
      unfold World.linkOpen
      by_cases here : l = l'
      · subst here
        simp [w₁, inside, (Array.getElem?_eq_some_iff.1 found).2]
      · simp [w₁, here]
    -- waking the receiving task changes nothing the invariant reads
    have woken : ∀ x : Act Unit, x.Steady → w.Steady (x.run w₁).2 := fun x hx =>
      delivered.trans (hx w₁ (delivered.reachable ‹_›) (delivered.allOpen ‹_›))
    split
    · exact woken _ (steady_wake _)
    · exact woken _ (Steady.pure _)
  · exact World.Steady.refl w

/-- Delivering what a registry operation sent changes nothing the invariant reads. -/
theorem registry_delivers (op : RegistryOp α) (w : World)
    (reachable : (op.runOn w.linkOpen (w.registry, [])).2.1.Reachable)
    (opened : (op.runOn w.linkOpen (w.registry, [])).2.1.AllOpen w.linkOpen) :
    World.Steady { w with registry := (op.runOn w.linkOpen (w.registry, [])).2.1 }
      ((Act.registry op).run w).2 :=
  Steady.forM (fun e : Sent => steady_deliver e.link e.command)
    (op.runOn w.linkOpen (w.registry, [])).2.2 _ reachable opened

/-- Closing a link closes it and changes nothing else the invariant reads. -/
theorem closeLink_keeps (l : LinkId) (w : World) :
    let w' := ((closeLink l).run w).2
    w'.registry = w.registry ∧ w'.store = w.store ∧ w'.tasks = w.tasks ∧
      w'.links.size = w.links.size ∧ ∀ l', l' ≠ l → w'.linkOpen l' = w.linkOpen l' := by
  rw [closeLink_run]
  split
  · refine ⟨rfl, rfl, rfl, by simp, fun l' other => ?_⟩
    unfold World.linkOpen
    simp [Ne.symm other]
  · exact ⟨rfl, rfl, rfl, rfl, fun _ _ => rfl⟩

/-- A registry operation that keeps the seats from a consistent registry whose links are
all open, and keeps the registry reachable. -/
theorem steady_registry {op : RegistryOp α} (keeps : RegistryOp.KeepsSeats op)
    (reaches : ∀ links r, r.Reachable → (op.runOn links (r, [])).2.1.Reachable) :
    (Act.registry op).Steady := by
  intro w reachable opened
  let w₁ := { w with registry := (op.runOn w.linkOpen (w.registry, [])).2.1 }
  have operated : w.Steady w₁ :=
    ⟨keeps w.linkOpen (w.registry, []) reachable.consistent opened,
      fun _ => reaches _ _ reachable, rfl, rfl, rfl, rfl⟩
  exact operated.trans (registry_delivers op w (operated.reachable reachable)
    (operated.allOpen opened))

theorem steady_dispatch (req : Request) : (Act.dispatch req).Steady :=
  Steady.bind calm_drawTieBreak.steady fun tie =>
    steady_registry (RegistryOp.keepsSeats_dispatch req tie) fun links _ =>
      .call (.dispatch req tie) links

theorem steady_abort (x : SubmissionId) : (Act.registry (RegistryOp.abort x)).Steady :=
  steady_registry (RegistryOp.keepsSeats_abort x) fun links _ => .call (.abort x) links

theorem steady_disconnect (name : String) (force : Bool) :
    (Act.registry (RegistryOp.disconnect name force)).Steady :=
  steady_registry (RegistryOp.keepsSeats_disconnect name force) fun links _ =>
    .call (.disconnect name force) links

theorem steady_disconnectAll (force : Bool) :
    (Act.registry (RegistryOp.disconnectAll force)).Steady :=
  steady_registry (RegistryOp.keepsSeats_disconnectAll force) fun links _ =>
    .call (.disconnectAll force) links

theorem steady_setDisabled (name : String) (d : Bool) :
    (Act.registry (RegistryOp.setDisabled name d)).Steady :=
  steady_registry (RegistryOp.keepsSeats_setDisabled name d) fun links _ =>
    .call (.setDisabled name d) links

theorem steady_onJudgeFree (id : JudgeId) (x : SubmissionId) :
    (Act.registry (RegistryOp.onJudgeFree id x)).Steady :=
  steady_registry (RegistryOp.keepsSeats_onJudgeFree id x) fun links _ =>
    .call (.onJudgeFree id x) links

theorem steady_setProblems (id : JudgeId) (ps : List String) :
    (Act.registry (RegistryOp.setProblems id ps)).Steady :=
  steady_registry (RegistryOp.keepsSeats_setProblems id ps) fun links _ =>
    .call (.setProblems id ps) links

theorem steady_setExecutors (id : JudgeId) (es : List String) :
    (Act.registry (RegistryOp.setExecutors id es)).Steady :=
  steady_registry (RegistryOp.keepsSeats_setExecutors id es) fun links _ =>
    .call (.setExecutors id es) links

theorem steady_setPing (id : JudgeId) (load : Option Binary64) (ping : Binary64) :
    (Act.registry (RegistryOp.setPing id load ping)).Steady :=
  steady_registry (RegistryOp.keepsSeats_setPing id load ping) fun links _ =>
    .call (.setPing id load ping) links

end Act

namespace JudgeTask

open Act

theorem steady_persist (id : SubmissionId) (u : SubmissionUpdate) : (persist id u).Steady :=
  Steady.bind (steady_store rfl) fun _ => Steady.pure _

theorem steady_pull (jt : JudgeTask) : (pull jt).Steady :=
  Steady.bind (steady_onConn _ _ _) fun _ => Steady.pure _

theorem steady_readPacket (jt : JudgeTask) : (readPacket jt).Steady := by
  unfold readPacket
  refine Steady.bind (steady_pull jt) fun x => ?_
  dsimp only
  split <;> exact Steady.pure _

end JudgeTask

/-! ## The invariant, at rest and while a task runs -/

namespace Presence

open Act RegistryOp

variable {α : Type} {T : Array Task} {t : TaskId} {s : Session} {w w' : World}
  {seats : TaskId → Option Seat}

/-- The tasks are `T` and their sessions sit at `seats`: the registry is reachable, every
registered judge's link is open, and every session holds its seat. -/
structure Seating (T : Array Task) (seats : TaskId → Option Seat) (w : World) : Prop where
  tasks : w.tasks = T
  reachable : w.registry.Reachable
  opened : w.registry.AllOpen w.linkOpen
  held : ∀ t σ, seats t = some σ → σ.Held w

theorem Seating.steady (h : Seating T seats w) (steady : w.Steady w') : Seating T seats w' :=
  ⟨steady.tasks.trans h.tasks, steady.reachable h.reachable, steady.allOpen h.opened,
    fun t σ sits => steady.held (h.held t σ sits)⟩

/-- Task `t` of `T` runs session `s`, and the store's records agree with the registry. -/
def Serving (T : Array Task) (t : TaskId) (s : Session) (w : World) : Prop :=
  t < T.size ∧ Seating T (Function.update (seatsOf T) t (some s.seat)) w ∧ w.Recorded

/-- Task `t` of `T` serves no session, and the store's records agree with the registry. -/
def Vacant (T : Array Task) (t : TaskId) (w : World) : Prop :=
  t < T.size ∧ Seating T (Function.update (seatsOf T) t none) w ∧ w.Recorded

/-- Every task's session holds its seat, and the store's records agree with the registry. -/
def Settled (w : World) : Prop := Seating w.tasks (seatsOf w.tasks) w ∧ w.Recorded

/-- What the invariant asks of the running session is only its seat. -/
theorem Serving.reseat (h : Serving T t s w) {s' : Session} (seat : s'.seat = s.seat) :
    Serving T t s' w := by
  unfold Serving
  rw [seat]
  exact h

/-- A steady step keeps the seats, and any fact about the records it keeps. -/
theorem Steady.seating {a : Act α} (h : a.Steady) {M : World → Prop}
    (keeps : ∀ w w', M w → w.Steady w' → M w') :
    Triple (fun w => Seating T seats w ∧ M w) a fun _ w => Seating T seats w ∧ M w :=
  fun w ⟨seating, m⟩ =>
    have steady := h w seating.reachable seating.opened
    ⟨seating.steady steady, keeps _ _ m steady⟩

theorem Steady.agreed {a : Act α} (h : a.Steady) :
    Triple (fun w => Seating T seats w ∧ w.Recorded) a fun _ w => Seating T seats w ∧ w.Recorded :=
  Steady.seating h fun _ _ recorded steady => steady.recorded recorded

theorem Steady.serving {a : Act α} (h : a.Steady) : Triple (Serving T t s) a fun _ => Serving T t s :=
  fun w ⟨inside, rest⟩ => ⟨inside, Steady.agreed h w rest⟩

theorem Steady.vacant {a : Act α} (h : a.Steady) : Triple (Vacant T t) a fun _ => Vacant T t :=
  fun w ⟨inside, rest⟩ => ⟨inside, Steady.agreed h w rest⟩

theorem Steady.settled {a : Act α} (h : a.Steady) : Triple Settled a fun _ => Settled :=
  fun w ⟨seating, recorded⟩ =>
    have steady := h w seating.reachable seating.opened
    ⟨steady.tasks ▸ seating.steady steady, steady.recorded recorded⟩

/-- A task that stores its state as serving no session leaves the relay settled. -/
theorem setTask_idle_settled (task : Task) (idle : task.session? = none) :
    Triple (fun w => Seating T (Function.update (seatsOf T) t none) w ∧ w.Recorded)
      (setTask t task) fun _ => Settled := by
  rintro w ⟨seating, recorded⟩
  refine ⟨⟨rfl, seating.reachable, seating.opened, fun t' σ sits => ?_⟩, recorded⟩
  have sits : seatsOf (T.set! t task) t' = some σ := by
    rw [← seating.tasks]
    exact sits
  rw [seatsOf_set_idle t idle] at sits
  exact (seating.held t' σ sits).mono (fun _ member => member) rfl rfl

/-- A task that stores the session it serves leaves the relay settled. -/
theorem setTask_settled (jt : JudgeTask) : Triple (Serving T t s)
    (setTask t (.judge { jt with stage := .serving s })) fun _ => Settled := by
  rintro w ⟨inside, seating, recorded⟩
  refine ⟨⟨rfl, seating.reachable, seating.opened, fun t' σ sits => ?_⟩, recorded⟩
  have sits : seatsOf (T.set! t (.judge { jt with stage := .serving s })) t' = some σ := by
    rw [← seating.tasks]
    exact sits
  rw [seatsOf_set inside] at sits
  exact (seating.held t' σ sits).mono (fun _ member => member) rfl rfl

theorem release_settled (jt : JudgeTask) :
    Triple (fun w => Seating T (Function.update (seatsOf T) t none) w ∧ w.Recorded)
      (JudgeTask.release t jt) fun _ => Settled :=
  Triple.bind (Steady.agreed (steady_modifyConn _ _)) fun _ => setTask_idle_settled _ rfl

/-- A step that changes only the store keeps the seats. -/
theorem Seating.quiet (h : Seating T seats w) (registry : w'.registry = w.registry)
    (links : w'.links = w.links) (tasks : w'.tasks = w.tasks) : Seating T seats w' := by
  have linkOpen : w'.linkOpen = w.linkOpen := by
    unfold World.linkOpen
    rw [links]
  refine ⟨tasks.trans h.tasks, registry ▸ h.reachable, ?_, fun t σ sits => ?_⟩
  · rw [registry, linkOpen]
    exact h.opened
  · exact (h.held t σ sits).mono (fun τ member => registry ▸ member) (by rw [registry])
      (by rw [links])

/-! ## Serving a judge -/

theorem submit_serving (jt : JudgeTask) (s : Session) (q : Request) :
    Triple (Serving T t s) (JudgeTask.submit jt s q) fun x => Serving T t x.2 :=
  JudgeTask.submit_triple jt s q (Steady.serving (steady_store rfl))
    (fun _ => Steady.serving (steady_sendPacket _ _)) (Steady.serving steady_now)
    (fun _ => Steady.serving (JudgeTask.steady_persist _ _)) (fun _ _ h => h) fun _ h => h

theorem onCommand_serving (jt : JudgeTask) (s : Session) (c : Command) :
    Triple (Serving T t s) (JudgeTask.onCommand jt s c) fun x => Serving T t x.2 :=
  JudgeTask.onCommand_triple jt s c (fun q _ => submit_serving jt s q)
    (fun _ => Steady.serving (steady_sendPacket _ _)) (Steady.serving (steady_sendPacket _ _))
    fun _ _ h => h

theorem onGradingEvent_serving (s : Session) (id : SubmissionId) (p : JudgePacket) :
    Triple (Serving T t s) (JudgeTask.onGradingEvent s id p) fun s' => Serving T t s' := by
  unfold JudgeTask.onGradingEvent
  dsimp only
  -- the session the event leaves differs from `s` in its deadlines and work, not its seat
  split
  · split <;> exact Triple.pure _ fun _ h => h
  · refine Triple.bind (Steady.serving (JudgeTask.steady_persist _ _)) fun _ => ?_
    split
    · split
      · next terminal => cases terminal
      · exact Triple.bind (Steady.serving (steady_onJudgeFree _ _)) fun _ =>
          Triple.pure _ fun _ h => h
    · split
      · exact Triple.pure _ fun _ h => h
      · exact Triple.pure _ fun _ h => h

theorem onPacket_serving (s : Session) (payload : ByteArray) :
    Triple (Serving T t s) (JudgeTask.onPacket s payload) fun o => Serving T t (o.getD s) :=
  JudgeTask.onPacket_triple payload (fun id p _ => onGradingEvent_serving s id p)
    (fun _ _ => Steady.serving (steady_setPing _ _ _)) (fun _ _ => Steady.serving (steady_store rfl))
    (fun _ => Steady.serving (steady_setProblems _ _))
    fun _ => Steady.serving (steady_setExecutors _ _)

/-! ## Closing a session -/

/-- The store records online exactly the registered names but `n`, which it records online at
least while a judge of that name is registered. -/
def Lags (n : String) (w : World) : Prop :=
  (∀ n', n' ≠ n → w.store.online n' = w.names n') ∧ (w.names n = true → w.store.online n = true)

theorem Lags.steady {n : String} (h : Lags n w) (steady : w.Steady w') : Lags n w' := by
  unfold Lags
  rw [steady.online, steady.names]
  exact h

/-- Once a judge of the name is found registered, the records agree again. -/
theorem Lags.recorded {n : String} (h : Lags n w) (named : w.names n = true) : w.Recorded := by
  funext n'
  by_cases same : n' = n
  · subst same
    rw [named]
    exact h.2 named
  · exact h.1 n' same

/-- Once no judge of the name is registered, recording it offline makes the records agree. -/
theorem offline_recorded {n : String} :
    Triple (fun w => Seating T seats w ∧ Lags n w ∧ w.names n = false)
      (Act.store (.judgeOffline n)) fun _ w => Seating T seats w ∧ w.Recorded := by
  rintro w ⟨seating, ⟨others, -⟩, gone⟩
  obtain ⟨registry, links, tasks⟩ := quiet_store (.judgeOffline n) w
  refine ⟨seating.quiet registry links tasks, funext fun n' => ?_⟩
  show (w.store.call (.judgeOffline n)).2.online n' = w.names n'
  rw [Store.online_call]
  by_cases same : n' = n
  · subst same
    simp [StoreCall.presence, gone]
  · simp [StoreCall.presence, Ne.symm same, others n' same]

/-- The names registered in two worlds agree on a name whose seats they share. -/
theorem names_eq_of_seats {n : String}
    (seats : ∀ σ : Seat, σ.name = n → (σ ∈ w'.registry.seats ↔ σ ∈ w.registry.seats)) :
    w'.names n = w.names n := by
  rw [Bool.eq_iff_iff, World.names_iff, World.names_iff]
  exact ⟨fun ⟨σ, member, named⟩ => ⟨σ, (seats σ named).1 member, named⟩,
    fun ⟨σ, member, named⟩ => ⟨σ, (seats σ named).2 member, named⟩⟩

/-- The judge of a session that closed its link leaves the registry. The other sessions keep
their seats, and the store keeps agreeing with the registry but for the session's name,
which it may still record online. -/
theorem leave_lags (s : Session) (left : List Command) :
    Triple (fun w => ∃ w₀, Serving T t s w₀ ∧ (closeLink s.link).run w₀ = (left, w))
      (Act.registry (RegistryOp.leave s.judgeId))
      fun _ w => Seating T (Function.update (seatsOf T) t none) w ∧ Lags s.name w := by
  rintro w ⟨w₀, ⟨-, seating, recorded⟩, closed⟩
  have keeps := closeLink_keeps s.link w₀
  rw [closed] at keeps
  obtain ⟨registry, store, tasks, size, linkOpen⟩ := keeps
  dsimp only at registry store tasks size linkOpen
  have held : s.seat.Held w₀ := seating.held t s.seat (Function.update_self _ _ _)
  -- a registered judge with another id than the session's is on another link
  have apart : ∀ τ ∈ w₀.registry.seats, τ.id ≠ s.judgeId → τ.link ≠ s.link :=
    fun τ member other same => other (congrArg Seat.id (held.own τ member (.inr same)))
  have opened : (w.registry.drop s.judgeId).AllOpen w.linkOpen := by
    intro τ member
    obtain ⟨member, other⟩ := Registry.mem_seats_drop.1 member
    rw [registry] at member
    rw [linkOpen τ.link (apart τ member other)]
    exact seating.opened τ member
  have seated := RegistryOp.seated_leave w.linkOpen s.judgeId (w.registry, [])
    (registry ▸ seating.reachable.consistent) opened
  -- the registry the judge left, before what the leave sent is delivered
  let w₁ := { w with
    registry := ((RegistryOp.leave s.judgeId).runOn w.linkOpen (w.registry, [])).2.1 }
  have reachable₁ : w₁.registry.Reachable :=
    .call (.leave s.judgeId) w.linkOpen (registry ▸ seating.reachable)
  have opened₁ : w₁.registry.AllOpen w₁.linkOpen := seated.allOpen opened
  have kept : ∀ τ, τ ∈ w₁.registry.seats ↔ τ ∈ w₀.registry.seats ∧ τ.id ≠ s.judgeId := by
    intro τ
    rw [seated.seats τ, Registry.mem_seats_drop, registry]
  have nextId : w₁.registry.nextId = w₀.registry.nextId :=
    seated.nextId.trans ((Registry.shrinks_drop _ _).nextId.trans (congrArg Registry.nextId registry))
  have delivered := registry_delivers (RegistryOp.leave s.judgeId) w reachable₁ opened₁
  have seating₁ : Seating T (Function.update (seatsOf T) t none) w₁ := by
    refine ⟨tasks.trans seating.tasks, reachable₁, opened₁, fun t' σ sits => ?_⟩
    -- another session keeps its seat
    by_cases here : t' = t
    · subst here
      rw [Function.update_self] at sits
      cases sits
    · rw [Function.update_of_ne here] at sits
      have held' := seating.held t' σ (by rw [Function.update_of_ne here]; exact sits)
      exact held'.mono (fun τ member => ((kept τ).1 member).1) nextId size
  have lags₁ : Lags s.name w₁ := by
    refine ⟨fun n' other => ?_, fun named => ?_⟩
    · -- a name other than the session's loses no judge
      show w.store.online n' = w₁.names n'
      rw [store, congrFun recorded n']
      refine (names_eq_of_seats fun τ named => ?_).symm
      rw [kept τ]
      refine ⟨fun member => member.1, fun member => ⟨member, fun same => other ?_⟩⟩
      rw [← named, held.own τ member (.inl same)]
      rfl
    · -- a judge of the session's name still registered was registered before
      show w.store.online s.name = true
      obtain ⟨τ, member, named'⟩ := World.names_iff.1 named
      rw [store, congrFun recorded s.name]
      exact World.names_iff.2 ⟨τ, ((kept τ).1 member).1, named'⟩
  exact ⟨seating₁.steady delivered, lags₁.steady delivered⟩

/-- Closing a session leaves every task's session in its seat, and the store agreeing with
the registry. -/
theorem close_settled (jt : JudgeTask) (s : Session) :
    Triple (Serving T t s) (JudgeTask.close t jt s) fun _ => Settled := by
  -- until the registry is looked at again, every step keeps the lag
  have lagging : ∀ {β : Type} {a : Act β}, a.Steady →
      Triple (fun w => Seating T (Function.update (seatsOf T) t none) w ∧ Lags s.name w) a
        fun _ w => Seating T (Function.update (seatsOf T) t none) w ∧ Lags s.name w :=
    fun h => Steady.seating h fun _ _ lags steady => lags.steady steady
  refine JudgeTask.close_triple
    (R := fun w => Seating T (Function.update (seatsOf T) t none) w ∧ w.Recorded) jt s
    (leave_lags s) (fun _ _ _ => lagging (JudgeTask.steady_persist _ _))
    (fun _ r _ => lagging (steady_dispatch r)) (fun _ => offline_recorded.conseq ?_ fun _ _ h => h) ?_
    (Steady.agreed (steady_modifyConn _ _)) (release_settled jt)
  · -- no judge of the name is left: the name is recorded offline
    rintro w ⟨⟨seating, lags⟩, gone⟩
    exact ⟨seating, lags, gone⟩
  · -- another judge of the name is registered, and the store still records it online
    rintro _ w ⟨seating, lags⟩ named
    exact ⟨seating, lags.recorded named⟩

/-! ## Serving -/

/-- Each step of serving a judge keeps the seats and the records: what the invariant asks of
the session is only its seat, which no step moves. -/
theorem serve_steps (t : TaskId) (c : ConnId) :
    JudgeTask.ServeSteps t c (Serving T t) (fun s _ => Serving T t s) Settled where
  pull jt _ := Steady.serving (JudgeTask.steady_pull jt)
  clock _ := Steady.serving steady_now
  choose _ ready := Steady.serving (JudgeTask.calm_choose ready).steady
  ping _ _ := Steady.serving (steady_sendPacket _ _)
  stamp _ _ _ h := h.reseat rfl
  reschedule _ _ _ h := h.reseat (Session.seat_nextPing _ _)
  packet := onPacket_serving
  take s := (Steady.serving (steady_takeCommand s.link)).conseq (fun _ h => h)
    fun o _ h => by cases o <;> exact h
  command jt s cmd _ := onCommand_serving jt s cmd
  close jt s _ := close_settled jt s
  park jt _ _ := setTask_settled jt
  wake := Steady.settled (steady_wake t)

/-- Serving a judge, whatever it sends and whatever the registry asks, ends settled. -/
theorem serve_settled (t : TaskId) (fuel : Nat) (jt : JudgeTask) (s : Session) :
    Triple (Serving T t s) (JudgeTask.serve t jt s fuel) fun _ => Settled :=
  JudgeTask.serve_triple (serve_steps t jt.conn) fuel jt s rfl

/-! ## Admitting a judge -/

/-- The store records online exactly the registered names but `n`, and a judge named `n` is
registered. -/
def Joins (n : String) (w : World) : Prop :=
  (∀ n', n' ≠ n → w.store.online n' = w.names n') ∧ w.names n = true

theorem Joins.steady {n : String} (h : Joins n w) (steady : w.Steady w') : Joins n w' := by
  unfold Joins
  rw [steady.online, steady.names]
  exact h

/-- Recording online the name of a judge just registered makes the records agree. -/
theorem online_recorded {a : Arrival} :
    Triple (fun w => Seating T seats w ∧ Joins a.name w)
      (Act.store (.judgeOnline a)) fun _ w => Seating T seats w ∧ w.Recorded := by
  rintro w ⟨seating, others, named⟩
  obtain ⟨registry, links, tasks⟩ := quiet_store (.judgeOnline a) w
  refine ⟨seating.quiet registry links tasks, funext fun n' => ?_⟩
  show (w.store.call (.judgeOnline a)).2.online n' = w.names n'
  rw [Store.online_call]
  by_cases same : n' = a.name
  · subst same
    simp [StoreCall.presence, named]
  · simp [StoreCall.presence, Ne.symm same, others n' same]

/-- Recording online the name of the judge its task just registered: the task now serves the
judge's session. -/
theorem online_serving {a : Arrival} {n : String} {σ : Seat} (named : a.name = n) :
    Triple (fun w => t < T.size ∧ Seating T (Function.update (seatsOf T) t (some σ)) w ∧
        Joins n w)
      (Act.store (.judgeOnline a)) fun _ w => t < T.size ∧
        Seating T (Function.update (seatsOf T) t (some σ)) w ∧ w.Recorded := by
  subst named
  exact fun w ⟨inside, rest⟩ => ⟨inside, online_recorded w rest⟩

/-- A judge registers over the link its task just opened. The task's session sits at the new
judge's seat, the other sessions keep theirs, and the store agrees with the registry but for
the judge's name, which is registered. -/
theorem enroll_joins (j : Judge) (free : j.working = none)
    (reaches : ∀ links r, r.Reachable → ((RegistryOp.register j).runOn links (r, [])).2.1.Reachable) :
    Triple (fun w => ∃ w₀, Vacant T t w₀ ∧ (openLink (some t)).run w₀ = (j.link, w))
      (Act.registry (RegistryOp.register j)) fun x w => t < T.size ∧
        Seating T (Function.update (seatsOf T) t (some ⟨x.1, j.name, j.link⟩)) w ∧
        Joins j.name w := by
  rintro w ⟨w₀, ⟨inside, seating, recorded⟩, opened⟩
  rw [openLink_run] at opened
  obtain ⟨fresh, rfl⟩ := Prod.mk.inj opened
  let w' := { w₀ with links := w₀.links.push { owner := some t } }
  -- the new link is open, and the others are as they were
  have linkOpen : ∀ l, l < w₀.links.size → w'.linkOpen l = w₀.linkOpen l := by
    intro l below
    simp [w', World.linkOpen, Array.getElem?_push, Nat.ne_of_lt below]
  have up : w'.linkOpen j.link = true := by
    simp [w', World.linkOpen, ← fresh]
  have opened' : w₀.registry.AllOpen w'.linkOpen := fun τ member =>
    (linkOpen _ (World.linkOpen_lt (seating.opened τ member))).trans (seating.opened τ member)
  have hc := seating.reachable.consistent
  obtain ⟨id, next, seats⟩ := RegistryOp.seats_register w'.linkOpen j free (w₀.registry, []) hc
    opened' up
  -- the registry the judge joined, before what the registration sent is delivered
  let w₁ := { w' with
    registry := ((RegistryOp.register j).runOn w'.linkOpen (w'.registry, [])).2.1 }
  have reachable₁ : w₁.registry.Reachable := reaches _ _ seating.reachable
  have opened₁ : w₁.registry.AllOpen w₁.linkOpen := by
    intro τ member
    rcases (seats τ).1 member with ⟨old, -⟩ | rfl
    · exact opened' τ old
    · exact up
  have delivered := registry_delivers (RegistryOp.register j) w' reachable₁ opened₁
  have result : ((Act.registry (RegistryOp.register j)).run w').1.1 = w₀.registry.nextId :=
    ((registry_spec (RegistryOp.register j) w').1 ▸ id : _)
  -- the registry gains the new judge's seat, past every seat it had, and keeps only those
  have grown : ∀ τ ∈ w₁.registry.seats,
      τ ∈ w₀.registry.seats ∨ τ = ⟨w₀.registry.nextId, j.name, j.link⟩ :=
    fun τ member => ((seats τ).1 member).imp_left And.left
  have size₁ : w₁.links.size = w₀.links.size + 1 := Array.size_push _
  have seating₁ : Seating T (Function.update (seatsOf T) t
      (some ⟨w₀.registry.nextId, j.name, j.link⟩)) w₁ := by
    refine ⟨seating.tasks, reachable₁, opened₁, fun t' σ sits => ?_⟩
    by_cases here : t' = t
    · -- the new session's seat is the new judge's
      subst here
      rw [Function.update_self] at sits
      cases sits
      exact Seat.held_enroll grown rfl fresh.symm next size₁ fun τ member =>
        ⟨hc.seat_id_lt member, World.linkOpen_lt (seating.opened τ member)⟩
    · -- another session keeps its seat
      rw [Function.update_of_ne here] at sits
      have held := seating.held t' σ (by rw [Function.update_of_ne here]; exact sits)
      exact held.enroll grown rfl fresh.symm next size₁
  have joins₁ : Joins j.name w₁ := by
    refine ⟨fun n' other => ?_, World.names_iff.2 ⟨_, (seats _).2 (.inr rfl), rfl⟩⟩
    -- a name other than the new judge's keeps its judges
    show w₀.store.online n' = w₁.names n'
    rw [congrFun recorded n']
    refine (names_eq_of_seats fun τ named => ?_).symm
    rw [seats τ]
    constructor
    · rintro (⟨old, -⟩ | rfl)
      · exact old
      · exact absurd named.symm other
    · intro old
      exact .inl ⟨old, named ▸ other⟩
  refine ⟨inside, ?_, joins₁.steady delivered⟩
  rw [result]
  exact seating₁.steady delivered

/-- Admitting a judge, or turning it away, ends settled. -/
theorem welcome_settled (jt : JudgeTask) (name key : String) (problems executors : List String)
    (tier : Option Nat) (fuel : Nat) :
    Triple (Vacant T t) (JudgeTask.welcome t jt name key problems executors tier fuel)
      fun _ => Settled := by
  -- until the name is recorded online, every step keeps the new seat and the judge's name
  have joining : ∀ {β : Type} {a : Act β} {σ : Seat}, a.Steady →
      Triple (fun w => t < T.size ∧ Seating T (Function.update (seatsOf T) t (some σ)) w ∧
        Joins name w) a
        fun _ w => t < T.size ∧ Seating T (Function.update (seatsOf T) t (some σ)) w ∧
          Joins name w :=
    fun h w ⟨inside, rest⟩ =>
      ⟨inside, Steady.seating h (fun _ _ joins steady => joins.steady steady) w rest⟩
  exact JudgeTask.welcome_triple (J := fun id link w => t < T.size ∧
      Seating T (Function.update (seatsOf T) t (some ⟨id, name, link⟩)) w ∧ Joins name w)
    jt name key problems executors tier fuel (fun w h => release_settled jt w h.2)
    (fun _ link => enroll_joins _ rfl fun links _ => .call (.register _ _ _ _ _ link) links)
    (fun _ _ => joining steady_now) (fun _ _ _ _ => joining (JudgeTask.steady_persist _ _))
    (fun _ _ _ _ named => online_serving named)
    (fun _ => Steady.serving (steady_sendPacket _ _)) (serve_settled t fuel jt) (close_settled jt)

/-- Waiting for the handshake ends settled. -/
theorem awaitHandshake_settled (jt : JudgeTask) (deadline fuel : Nat) :
    Triple (Vacant T t) (JudgeTask.awaitHandshake t jt deadline fuel) fun _ => Settled :=
  JudgeTask.awaitHandshake_triple jt deadline fuel
    (fun jt => Steady.vacant (JudgeTask.steady_readPacket jt)) (Steady.vacant steady_now)
    (fun jt _ w h => release_settled jt w h.2)
    (fun _ _ idle w h => setTask_idle_settled _ idle w h.2)
    fun jt name key problems executors tier _ =>
      welcome_settled jt name key problems executors tier fuel

/-- Waiting for the PROXY header ends settled. -/
theorem awaitProxyHeader_settled (jt : JudgeTask) (deadline fuel : Nat) :
    Triple (Vacant T t) (JudgeTask.awaitProxyHeader t jt deadline fuel) fun _ => Settled :=
  JudgeTask.awaitProxyHeader_triple jt deadline fuel
    (fun jt => Steady.vacant (JudgeTask.steady_pull jt)) (Steady.vacant steady_now)
    (fun jt _ w h => release_settled jt w h.2)
    (fun _ _ idle w h => setTask_idle_settled _ idle w h.2)
    fun jt d _ => awaitHandshake_settled jt d fuel

end Presence

end JudgeRelay
