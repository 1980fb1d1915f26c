import JudgeRelay.Proofs.Registry.Spared
import JudgeRelay.Proofs.Relay.Framing

/-!
# An abort holds, but for what was already on its way

Stopping a submission `x` is fire-and-forget: the registry asks the judge grading it to abort,
and from then on holds `x` back (`Call.spares`). What it cannot reach is a `Submit` of `x` it
sent before the abort and that a session still holds: on the session's link, or in hand after a
write to the judge that failed. This module follows what the relay writes to its clients after
the abort returned, in every run that brings no new offer of `x`.

A session that held `x` when the abort returned may still write it to its own judge, and the
abort after it. Every other packet any client finds on its connection is not a submission of
`x` (`abort_holds`), for as long as every session that held `x` is open. When one closes, it
drops the abort on its link and offers `x` to the registry again, which may send it to another
judge: `close_reroutes_aborted` is such a run.

The invariant is `Withheld`: the registry does not queue `x`, every session that holds `x` held
it when the abort returned, and what each client read since is spared. The walks of
`Relay.Stages` carry it through each task, and `Event.act_triple` through every event; `Broken`
is the way out, once a task whose session held `x` has finished.
-/

namespace JudgeRelay

open Act

/-! ## Who holds a submission -/

/-- Session `s` holds submission `x`: a write of `x` to its judge failed, or `x` waits on its
link. -/
def Session.Holds (s : Session) (x : SubmissionId) (links : Array Link) : Prop :=
  x ∈ s.undelivered.map (·.id) ∨ x ∈ pendingOn links s.link

instance (s : Session) (x : SubmissionId) (links : Array Link) : Decidable (s.Holds x links) :=
  inferInstanceAs (Decidable (_ ∨ _))

/-- A session holding a command it took: what it held, or what the command hands over. -/
theorem Session.holds_holding {s : Session} {c : Command} {x : SubmissionId} {links : Array Link}
    (holds : (s.holding c).Holds x links) :
    x ∈ s.undelivered.map (·.id) ∨ x ∈ c.handsOver.toList ∨ x ∈ pendingOn links s.link := by
  rcases holds with delivered | waiting
  · rw [Session.holding_undelivered, List.map_append, List.mem_append, Command.handed_ids] at delivered
    exact delivered.elim .inl (.inr ∘ .inl)
  · exact .inr (.inr waiting)

/-- The tasks whose session holds `x`. -/
def World.holders (w : World) (x : SubmissionId) : List TaskId :=
  (List.range w.tasks.size).filter fun t =>
    (sessionsOf w.tasks t).any fun s => decide (s.Holds x w.links)

theorem World.mem_holders {w : World} {x : SubmissionId} {t : TaskId} :
    t ∈ w.holders x ↔ ∃ s, sessionsOf w.tasks t = some s ∧ s.Holds x w.links := by
  simp only [World.holders, List.mem_filter, List.mem_range, Option.any_eq_true, decide_eq_true_eq]
  refine ⟨fun ⟨_, held⟩ => held, fun ⟨s, found, holds⟩ => ⟨?_, s, found, holds⟩⟩
  -- a task that serves a session is one of the tasks
  obtain ⟨task, present, -⟩ := Option.bind_eq_some_iff.1 found
  exact (Array.getElem?_eq_some_iff.1 present).1

/-- A connection whose task's session held `x` in `w₁`: `x` may still reach its judge. -/
def World.inFlight (w₁ : World) (x : SubmissionId) (c : ConnId) : Prop :=
  ∃ t ∈ w₁.holders x, (w₁.tasks[t]?).map Task.conn = some c

/-- The packet asks the judge to grade `x`. -/
def RelayPacket.Submits (x : SubmissionId) : RelayPacket → Prop
  | .submission id _ _ _ _ => id = x
  | _ => False

/-! ## What a client reads after the abort -/

/-- What a client finds on connection `c` after the abort of `x` in `w₁` may be: a frame it
could not read, or a packet of the relay that submits `x` only on a connection whose session
held `x` then. -/
def Received.Spares (x : SubmissionId) (w₁ : World) (c : ConnId) : Received → Prop
  | .packet q => ∃ P : RelayPacket, q = P.toJson.toBytes ∧ (P.Submits x → w₁.inFlight x c)
  | .failure _ => True

/-- What a client read went from `old` to `now` by items that are `ok`: it grew by them, or
the client took what it had and only such items came after. -/
def Received.Since (ok : Received → Prop) (old now : List Received) : Prop :=
  ∃ new, (now = old ++ new ∨ now = new) ∧ ∀ i ∈ new, ok i

namespace Received.Since

variable {ok : Received → Prop} {old now : List Received}

theorem refl (ok : Received → Prop) (old : List Received) : Since ok old old :=
  ⟨[], .inl (List.append_nil _).symm, fun _ none => absurd none List.not_mem_nil⟩

theorem grow (h : Since ok old now) {got : List Received} (fine : ∀ i ∈ got, ok i) :
    Since ok old (now ++ got) := by
  obtain ⟨new, grew | taken, fine'⟩ := h
  all_goals refine ⟨new ++ got, ?_, fun i mem => (List.mem_append.1 mem).elim (fine' i) (fine i)⟩
  · exact .inl (by rw [grew, List.append_assoc])
  · exact .inr (by rw [taken])

/-- A step that writes to no client keeps what it read, or takes it all. -/
theorem unwritten (h : Since ok old now) {now' : List Received} (kept : now' = now ∨ now' = []) :
    Since ok old now' := by
  rcases kept with same | taken
  · exact same ▸ h
  · exact ⟨[], .inr taken, fun _ none => absurd none List.not_mem_nil⟩

end Received.Since

/-! ## Withholding a submission -/

/-- After the abort of `x` in `w₁`, with `sess` the sessions of the tasks: the relay and its
clients agree on frames, the registry is reachable and does not queue `x`, every session that
holds `x` held it in `w₁`, and what every client read since is spared. -/
structure Withheld (x : SubmissionId) (w₁ : World) (sess : TaskId → Option Session) (w : World) :
    Prop where
  wired : w.Wired
  reachable : w.registry.Reachable
  unqueued : ∀ q ∈ w.registry.queue.toList, q.id ≠ x
  held : ∀ t s, sess t = some s → s.Holds x w.links → t ∈ w₁.holders x
  read : ∀ c, Received.Since (Received.Spares x w₁ c) (w₁.received c) (w.received c)

/-- A task whose session held `x` in `w₁` has finished among the tasks `T`: the session closed
and handed `x` back. -/
def Broken (x : SubmissionId) (w₁ : World) (T : Array Task) : Prop :=
  ∃ t ∈ w₁.holders x, ∃ jt : JudgeTask, T[t]? = some (.judge jt) ∧ jt.stage = .finished

/-- The tasks `T` run no control connection, and every task of `w₁` keeps its connection. -/
def Staffed (w₁ : World) (T : Array Task) : Prop :=
  (∀ (t : TaskId) (ct : ControlTask), T[t]? = some (.control ct) → ct.stage = .finished) ∧
    ∀ (t : TaskId) (task : Task), w₁.tasks[t]? = some task → (T[t]?).map Task.conn = some task.conn

/-- `P` holds over the tasks `T`, unless a session that held `x` has closed. -/
def Guarded (x : SubmissionId) (w₁ : World) (T : Array Task) (P : World → Prop) (w : World) : Prop :=
  w.tasks = T ∧ (P w ∨ Broken x w₁ T)

/-- What every event keeps after the abort of `x` in `w₁`. -/
def Spared (x : SubmissionId) (w₁ : World) (w : World) : Prop :=
  Staffed w₁ w.tasks ∧ (Withheld x w₁ (sessionsOf w.tasks) w ∨ Broken x w₁ w.tasks)

namespace Withheld

variable {x : SubmissionId} {w₁ : World} {sess sess' : TaskId → Option Session} {w w' : World}

/-- A step that writes to no client and leaves the registry, and after which every session
that holds `x` is one that held it before. -/
theorem frame (h : Withheld x w₁ sess w) (unwritten : w.Unwritten w')
    (registry : w'.registry = w.registry)
    (held : ∀ t s', sess' t = some s' → s'.Holds x w'.links →
      ∃ s, sess t = some s ∧ s.Holds x w.links) :
    Withheld x w₁ sess' w' where
  wired := unwritten.wired h.wired
  reachable := registry ▸ h.reachable
  unqueued := registry ▸ h.unqueued
  held t s' found holds := by
    obtain ⟨s, old, holds⟩ := held t s' found holds
    exact h.held t s old holds
  read c := (h.read c).unwritten (unwritten.received c)

/-- The same sessions, over links on which `x` waits nowhere new. -/
theorem links (h : Withheld x w₁ sess w) (unwritten : w.Unwritten w') (registry : w'.registry = w.registry)
    (fewer : ∀ l, x ∈ pendingOn w'.links l → x ∈ pendingOn w.links l) : Withheld x w₁ sess w' :=
  h.frame unwritten registry fun _ s found holds => ⟨s, found, holds.imp_right (fewer _)⟩

theorem keep {α : Type} {a : Act α} (quiet : Quiet a) (mute : Mute a) :
    Triple (Withheld x w₁ sess) a fun _ => Withheld x w₁ sess := fun w h =>
  h.links (mute w) (quiet w).1 fun l => by rw [(quiet w).2.1]; exact id

/-- Task `t`'s session changes to one that holds `x` only where the old one did. -/
theorem reseat {t : TaskId} {o o' : Option Session}
    (h : Withheld x w₁ (Function.update sess t o) w)
    (less : ∀ s', o' = some s' → s'.Holds x w.links → ∃ s, o = some s ∧ s.Holds x w.links) :
    Withheld x w₁ (Function.update sess t o') w :=
  h.frame (.refl w) rfl fun t' s' found holds => by
    rw [Function.update_apply] at found ⊢
    split at found
    · next here => rw [if_pos here]; exact less s' found holds
    · next other => rw [if_neg other]; exact ⟨s', found, holds⟩

/-- A registry operation that holds `x` back brings `x` onto no link. -/
theorem registry_fewer {α : Type} {op : RegistryOp α} (spares : op.Spares x) (w : World)
    (reachable : w.registry.Reachable) (unqueued : ∀ q ∈ w.registry.queue.toList, q.id ≠ x) :
    ∀ l, x ∈ pendingOn ((Act.registry op).run w).2.links l → x ∈ pendingOn w.links l := by
  obtain ⟨-, -, -, size, pending⟩ := registry_spec op w
  obtain ⟨-, -, sends⟩ := spares w.linkOpen w.registry reachable unqueued
  intro l waiting
  by_cases inside : l < w.links.size
  · rw [pending l inside, List.mem_append] at waiting
    refine waiting.resolve_right fun handed => ?_
    -- what the operation hands over on a link is the submissions it sends there
    obtain ⟨e, sent, gives⟩ := List.mem_filterMap.1 handed
    split at gives
    · rcases command : e.command with q | _ | _ <;> rw [command] at gives <;> cases gives
      exact sends e sent q command rfl
    · cases gives
  · rw [pendingOn_of_size_le (size ▸ Nat.le_of_not_lt inside)] at waiting
    cases waiting

theorem registry {α : Type} {op : RegistryOp α} (spares : op.Spares x) :
    Triple (Withheld x w₁ sess) (Act.registry op) fun _ => Withheld x w₁ sess := by
  intro w h
  obtain ⟨-, registry, -⟩ := registry_spec op w
  obtain ⟨reachable, unqueued, -⟩ := spares w.linkOpen w.registry h.reachable h.unqueued
  have fewer := registry_fewer spares w h.reachable h.unqueued
  have unwritten := mute_registry op w
  exact { wired := unwritten.wired h.wired
          reachable := registry ▸ reachable
          unqueued := registry ▸ unqueued
          held := fun t s found holds => h.held t s found (holds.imp_right (fewer _))
          read := fun c => (h.read c).unwritten (unwritten.received c) }

/-- Sending a packet that submits `x` only where `x` may still go. -/
theorem send (P : RelayPacket) (c : ConnId)
    (flight : ∀ w, Withheld x w₁ sess w → P.Submits x → w₁.inFlight x c) :
    Triple (Withheld x w₁ sess) (sendPacket c P.toJson) fun _ => Withheld x w₁ sess := by
  intro w h
  obtain ⟨wired, grew⟩ := sendPacket_spec c P.toJson h.wired
  obtain ⟨registry, links, -⟩ := quiet_sendPacket c P.toJson w
  refine { wired
           reachable := registry ▸ h.reachable
           unqueued := registry ▸ h.unqueued
           held := fun t s found holds => h.held t s found (links ▸ holds)
           read := fun c' => ?_ }
  obtain ⟨got, grown, fine, others⟩ := grew c'
  rw [grown]
  refine (h.read c').grow fun i mem => ?_
  cases i with
  | failure => trivial
  | packet q =>
    refine ⟨P, fine _ mem, fun submits => ?_⟩
    by_cases same : c' = c
    · exact same ▸ flight w h submits
    · rw [others same] at mem
      cases mem

theorem dispatch (r : Request) (differ : r.id ≠ x) :
    Triple (Withheld x w₁ sess) (Act.dispatch r) fun _ => Withheld x w₁ sess :=
  dispatch_triple r (keep calm_drawTieBreak.1 mute_drawTieBreak) fun tie =>
    registry (Call.spares_of (.dispatch r tie) (fun _ _ => rfl) fun _ _ offer => by
      cases offer
      exact differ)

/-- Taking a command off the link of task `t`'s session: the session holds what it took, and
`x` waits nowhere new. -/
theorem take {t : TaskId} {s : Session} :
    Triple (Withheld x w₁ (Function.update sess t (some s))) (takeCommand s.link) fun o =>
      o.elim (Withheld x w₁ (Function.update sess t (some s))) fun cmd =>
        Withheld x w₁ (Function.update sess t (some (s.holding cmd))) := by
  intro w h
  obtain ⟨registry, -, -, others, front⟩ := takeCommand_spec s.link w
  have fewer : ∀ l, x ∈ pendingOn ((takeCommand s.link).run w).2.links l → x ∈ pendingOn w.links l := by
    intro l waiting
    by_cases same : s.link = l
    · rw [← same, front]
      exact List.mem_append_right _ (same ▸ waiting)
    · rwa [← others l same]
  have unwritten := mute_takeCommand s.link w
  revert front
  rcases ((takeCommand s.link).run w).1 with _ | cmd <;> intro front
  · exact h.links unwritten registry fewer
  · -- the command in hand counts as held, as it did on the link
    refine h.frame unwritten registry fun t' s' found holds => ?_
    rw [Function.update_apply] at found ⊢
    split at found
    · next here =>
      rw [if_pos here]
      cases found
      refine ⟨s, rfl, ?_⟩
      rcases Session.holds_holding holds with delivered | handed | waiting
      · exact .inl delivered
      · exact .inr (by rw [front]; exact List.mem_append_left _ handed)
      · exact .inr (fewer _ waiting)
    · next other =>
      rw [if_neg other]
      exact ⟨s', found, holds.imp_right (fewer _)⟩

end Withheld

theorem Act.Triple.either {α : Type} {P₁ P₂ : World → Prop} {a : Act α} {Q : α → World → Prop}
    (h₁ : Triple P₁ a Q) (h₂ : Triple P₂ a Q) : Triple (fun w => P₁ w ∨ P₂ w) a Q :=
  fun w h => h.elim (h₁ w) (h₂ w)

/-! ## Over the tasks -/

section Tasks

variable {x : SubmissionId} {w₁ : World} {T : Array Task} {t : TaskId} {jt₀ : JudgeTask}

theorem Broken.set (found : T[t]? = some (.judge jt₀)) (live : jt₀.stage ≠ .finished)
    (broken : Broken x w₁ T) (task : Task) : Broken x w₁ (T.set! t task) := by
  obtain ⟨t', holder, jt, there, finished⟩ := broken
  -- the task that finished is not the one that runs
  have other : t ≠ t' := by
    rintro rfl
    rw [found] at there
    cases there
    exact live finished
  refine ⟨t', holder, jt, ?_, finished⟩
  rw [getElem?_set!_of_lt (Array.getElem?_eq_some_iff.1 found).1, if_neg other, there]

theorem Broken.push (broken : Broken x w₁ T) (task : Task) : Broken x w₁ (T.push task) := by
  obtain ⟨t', holder, jt, there, finished⟩ := broken
  have inside := (Array.getElem?_eq_some_iff.1 there).1
  refine ⟨t', holder, jt, ?_, finished⟩
  rw [Array.getElem?_push, if_neg (Nat.ne_of_lt inside), there]

/-- A holder's task that finishes is broken. -/
theorem Broken.finish (found : T[t]? = some (.judge jt₀)) (holder : t ∈ w₁.holders x) (jt : JudgeTask) :
    Broken x w₁ (T.set! t (.judge { jt with stage := .finished })) :=
  ⟨t, holder, { jt with stage := .finished },
    by rw [getElem?_set!_of_lt (Array.getElem?_eq_some_iff.1 found).1, if_pos rfl], rfl⟩

theorem Staffed.set (staffed : Staffed w₁ T) (found : T[t]? = some (.judge jt₀)) (jt : JudgeTask)
    (same : jt.conn = jt₀.conn) : Staffed w₁ (T.set! t (.judge jt)) := by
  have inside := (Array.getElem?_eq_some_iff.1 found).1
  refine ⟨fun t' ct there => ?_, fun t' task old => ?_⟩
  · rw [getElem?_set!_of_lt inside] at there
    split at there
    · cases there
    · exact staffed.1 t' ct there
  · rw [getElem?_set!_of_lt inside]
    split
    · next here =>
      subst here
      have kept := staffed.2 t task old
      rw [found, Option.map_some] at kept
      rw [Option.map_some, ← kept]
      exact congrArg some same
    · exact staffed.2 t' task old

theorem Staffed.push (staffed : Staffed w₁ T) (jt : JudgeTask) : Staffed w₁ (T.push (.judge jt)) := by
  refine ⟨fun t' ct there => ?_, fun t' task old => ?_⟩
  · rw [Array.getElem?_push] at there
    split at there
    · cases there
    · exact staffed.1 t' ct there
  · have kept := staffed.2 t' task old
    -- a task of `w₁` is among the tasks `T`, below the one pushed
    have inside : t' < T.size := by
      rcases present : T[t']? with _ | _
      · rw [present] at kept
        cases kept
      · exact (Array.getElem?_eq_some_iff.1 present).1
    rw [Array.getElem?_push, if_neg (Nat.ne_of_lt inside)]
    exact kept

/-- The connection of a task whose session held `x`: the judge's task found at `t` still uses
it. -/
theorem Staffed.inFlight (staffed : Staffed w₁ T) (found : T[t]? = some (.judge jt₀))
    (holder : t ∈ w₁.holders x) : w₁.inFlight x jt₀.conn := by
  obtain ⟨s, sits, -⟩ := World.mem_holders.1 holder
  obtain ⟨task, present, -⟩ := Option.bind_eq_some_iff.1 sits
  have kept := staffed.2 t task present
  rw [found, Option.map_some] at kept
  exact ⟨t, holder, by rw [present, Option.map_some, ← kept]; rfl⟩

namespace Guarded

variable {α : Type}

/-- A step that leaves the tasks carries over them what it keeps. -/
theorem lift {a : Act α} {P : World → Prop} {Q : α → World → Prop}
    (tasks : ∀ w, (a.run w).2.tasks = w.tasks) (h : Triple P a Q) :
    Triple (Guarded x w₁ T P) a fun v => Guarded x w₁ T (Q v) :=
  fun w ⟨same, holds⟩ => ⟨(tasks w).trans same, holds.imp_left (h w)⟩

theorem keep {a : Act α} {P : World → Prop} (quiet : Quiet a) (h : Triple P a fun _ => P) :
    Triple (Guarded x w₁ T P) a fun _ => Guarded x w₁ T P :=
  lift (fun w => (quiet w).2.2) h

theorem imp {P Q : World → Prop} (h : ∀ w, P w → Q w) {w : World} (held : Guarded x w₁ T P w) :
    Guarded x w₁ T Q w :=
  ⟨held.1, held.2.imp_left (h w)⟩

end Guarded

/-- While task `t` runs over the tasks `T`, with `o` as its session. -/
abbrev Running (x : SubmissionId) (w₁ : World) (T : Array Task) (t : TaskId) (o : Option Session) :
    World → Prop :=
  Guarded x w₁ T (Withheld x w₁ (Function.update (sessionsOf T) t o))

theorem running_keep {α : Type} {a : Act α} {o : Option Session} (quiet : Quiet a) (mute : Mute a) :
    Triple (Running x w₁ T t o) a fun _ => Running x w₁ T t o :=
  Guarded.keep quiet (Withheld.keep quiet mute)

theorem registry_tasks {α : Type} (op : RegistryOp α) (w : World) :
    ((Act.registry op).run w).2.tasks = w.tasks :=
  (registry_spec op w).2.2.1

theorem dispatch_tasks (r : Request) (w : World) : ((Act.dispatch r).run w).2.tasks = w.tasks := by
  simp only [Act.dispatch, run_bind]
  rw [registry_tasks]
  exact (calm_drawTieBreak.1 w).2.2

/-- Task `t` stores its new state: what held over the tasks holds of the tasks it leaves. -/
theorem spared_setTask (found : T[t]? = some (.judge jt₀)) (live : jt₀.stage ≠ .finished)
    (staffed : Staffed w₁ T) (jt : JudgeTask) (same : jt.conn = jt₀.conn) :
    Triple (Running x w₁ T t (Task.judge jt).session?) (setTask t (.judge jt)) fun _ => Spared x w₁ := by
  rintro w ⟨tasks, holds⟩
  have inside := (Array.getElem?_eq_some_iff.1 found).1
  show Spared x w₁ { w with tasks := w.tasks.set! t (.judge jt) }
  rw [tasks]
  refine ⟨staffed.set found jt same, holds.imp (fun h => ?_) fun broken => broken.set found live (.judge jt)⟩
  rw [sessionsOf_set inside]
  exact h.links (mute_setTask t (.judge jt) w) rfl fun _ => id

theorem spared_release (found : T[t]? = some (.judge jt₀)) (live : jt₀.stage ≠ .finished)
    (staffed : Staffed w₁ T) (jt : JudgeTask) (same : jt.conn = jt₀.conn) :
    Triple (Running x w₁ T t none) (JudgeTask.release t jt) fun _ => Spared x w₁ :=
  Triple.bind (running_keep (quiet_modifyConn _ _) (mute_modifyConn _ Conn.unwritten_serverDrop))
    fun _ => spared_setTask found live staffed { jt with stage := .finished } same

/-- Steps that leave the tasks keep them at `T`, and any fact besides. -/
theorem tasks_keep {α : Type} {a : Act α} {C : Prop} (tasks : ∀ w, (a.run w).2.tasks = w.tasks) :
    Triple (fun w => w.tasks = T ∧ C) a fun _ w => w.tasks = T ∧ C :=
  fun w ⟨same, fact⟩ => ⟨(tasks w).trans same, fact⟩

/-- A task whose session held `x`, or any task once one has, finishes broken. -/
theorem spared_finish (found : T[t]? = some (.judge jt₀)) (live : jt₀.stage ≠ .finished)
    (staffed : Staffed w₁ T) (jt : JudgeTask) (same : jt.conn = jt₀.conn) :
    Triple (fun w => w.tasks = T ∧ (Broken x w₁ T ∨ t ∈ w₁.holders x)) (JudgeTask.release t jt)
      fun _ => Spared x w₁ := by
  refine Triple.bind (tasks_keep fun w => (quiet_modifyConn _ _ w).2.2) fun _ => ?_
  rintro w ⟨tasks, broken⟩
  show Spared x w₁ { w with tasks := w.tasks.set! t _ }
  rw [tasks]
  refine ⟨staffed.set found _ same, .inr ?_⟩
  rcases broken with broken | holder
  · exact broken.set found live _
  · -- the task itself held `x`
    exact Broken.finish found holder jt

/-- A session that holds `x` holds it still with a command in hand. -/
theorem Session.Holds.holding {s : Session} {links : Array Link} (holds : s.Holds x links)
    (c : Command) : (s.holding c).Holds x links :=
  holds.imp_left fun delivered => by
    rw [Session.holding_undelivered, List.map_append]
    exact List.mem_append_left _ delivered

/-- Task `t`'s session changes to one that holds `x` only where the old one does. -/
theorem Running.less {s s' : Session} {w : World} (h : Running x w₁ T t (some s) w)
    (less : ∀ links, s'.Holds x links → s.Holds x links) : Running x w₁ T t (some s') w :=
  Guarded.imp (fun _ held => held.reseat fun _ found holds => by
    cases found
    exact ⟨s, rfl, less _ holds⟩) h

theorem running_registry {α : Type} {op : RegistryOp α} {o : Option Session} (spares : op.Spares x) :
    Triple (Running x w₁ T t o) (Act.registry op) fun _ => Running x w₁ T t o :=
  Guarded.lift (registry_tasks op) (Withheld.registry spares)

/-- An operation of the registry that no request of the relay's own code offers under `x`. -/
theorem spares_of_call {α : Type} (c : Call) {op : RegistryOp α}
    (runs : ∀ links r, c.run links r = (op.runOn links (r, [])).2)
    (other : ∀ req tie, c ≠ .dispatch req tie) : op.Spares x :=
  Call.spares_of c runs fun req tie offer => absurd offer (other req tie)

/-! ## Closing a session -/

section Close

variable (found : T[t]? = some (.judge jt₀)) (live : jt₀.stage ≠ .finished)
  (staffed : Staffed w₁ T) (jt : JudgeTask) (s : Session) (same : jt.conn = jt₀.conn)

include found live staffed same

/-- A session that held `x`, or any once one has closed: the tasks stay as they are until the
task finishes, broken. -/
theorem close_holder :
    Triple (fun w => w.tasks = T ∧ (Broken x w₁ T ∨ t ∈ w₁.holders x)) (JudgeTask.close t jt s)
      fun _ => Spared x w₁ :=
  JudgeTask.close_triple (L := fun _ w => w.tasks = T ∧ (Broken x w₁ T ∨ t ∈ w₁.holders x)) jt s
    (fun _ w ⟨w₀, ⟨tasks, fact⟩, closed⟩ => by
      have kept := (closeLink_spec s.link w₀).2.1
      rw [closed] at kept
      exact ⟨(registry_tasks _ w).trans (kept.trans tasks), fact⟩)
    (fun _ _ _ => tasks_keep fun w => (JudgeTask.quiet_persist _ _ w).2.2)
    (fun _ r _ => tasks_keep (dispatch_tasks r))
    (fun _ => (tasks_keep fun w => (quiet_store _ w).2.2).conseq (fun _ h => h.1) fun _ _ h => h)
    (fun _ _ h _ => h) (tasks_keep fun w => (quiet_modifyConn _ _ w).2.2)
    (spared_finish found live staffed jt same)

/-- A session that does not hold `x` hands back only other submissions when it closes. -/
theorem close_free :
    Triple (fun w => w.tasks = T ∧ Withheld x w₁ (Function.update (sessionsOf T) t (some s)) w ∧
      ¬s.Holds x w.links) (JudgeTask.close t jt s) fun _ => Spared x w₁ := by
  refine JudgeTask.close_triple (L := fun left w => w.tasks = T ∧
      Withheld x w₁ (Function.update (sessionsOf T) t none) w ∧
      ∀ r, (r ∈ s.undelivered ∨ Command.submit r ∈ left) → r.id ≠ x)
    (R := fun w => w.tasks = T ∧ Withheld x w₁ (Function.update (sessionsOf T) t none) w) jt s
    (fun left w ⟨w₀, ⟨tasks, h, free⟩, closed⟩ => ?_)
    (fun _ _ _ w ⟨tasks, h, fact⟩ => ⟨(JudgeTask.quiet_persist _ _ w).2.2.trans tasks,
      Withheld.keep (JudgeTask.quiet_persist _ _) (JudgeTask.mute_persist _ _) w h, fact⟩)
    (fun left r handed w ⟨tasks, h, fact⟩ => ⟨(dispatch_tasks r w).trans tasks,
      Withheld.dispatch r (fact r ?_) w h, fact⟩)
    (fun _ w ⟨⟨tasks, h, _⟩, _⟩ => ⟨(quiet_store _ w).2.2.trans tasks,
      Withheld.keep (quiet_store _) (mute_store _) w h⟩)
    (fun _ _ ⟨tasks, h, _⟩ _ => ⟨tasks, h⟩)
    (fun w ⟨tasks, h⟩ => ⟨(quiet_modifyConn _ _ w).2.2.trans tasks,
      Withheld.keep (quiet_modifyConn _ _) (mute_modifyConn _ Conn.unwritten_serverShutdown) w h⟩)
    ((spared_release found live staffed jt same).conseq (fun _ ⟨tasks, h⟩ => ⟨tasks, .inl h⟩)
      fun _ _ h => h)
  · -- the link closes empty, and the session leaves the sessions
    obtain ⟨registry, kept, -, others, emptied, handed⟩ := closeLink_spec s.link w₀
    rw [closed] at registry kept others emptied handed
    have unwritten := mute_closeLink s.link w₀
    rw [closed] at unwritten
    have vacated : Withheld x w₁ (Function.update (sessionsOf T) t none) w := by
      refine h.frame unwritten registry fun t' s' there holds => ?_
      rw [Function.update_apply] at there
      split at there
      · cases there
      · next other =>
        refine ⟨s', by rw [Function.update_of_ne other]; exact there, holds.imp_right fun waiting => ?_⟩
        by_cases mine : s.link = s'.link
        · rw [← mine, emptied] at waiting
          cases waiting
        · rwa [← others _ mine]
    refine ⟨(registry_tasks _ w).trans (kept.trans tasks),
      Withheld.registry (spares_of_call (.leave s.judgeId) (fun _ _ => rfl) fun _ _ => nofun) w vacated, ?_⟩
    rintro r (delivered | taken) rfl
    · exact free (.inl (List.mem_map_of_mem delivered))
    · exact free (.inr (handed ▸ List.mem_filterMap.2 ⟨_, taken, rfl⟩))
  · -- what is handed back was held, or taken off the link
    rcases List.mem_append.1 handed with delivered | taken
    · exact .inl delivered
    · obtain ⟨c, taken, gives⟩ := List.mem_filterMap.1 taken
      cases c <;> cases gives
      exact .inr taken

/-- Closing a session, whether or not it held `x`. -/
theorem close_spared :
    Triple (Running x w₁ T t (some s)) (JudgeTask.close t jt s) fun _ => Spared x w₁ := by
  refine (Triple.either (close_holder found live staffed jt s same)
    (close_free found live staffed jt s same)).conseq (fun w ⟨tasks, held⟩ => ?_) fun _ _ h => h
  rcases held with h | broken
  · by_cases holds : s.Holds x w.links
    · exact .inl ⟨tasks, .inr (h.held t s (Function.update_self _ _ _) holds)⟩
    · exact .inr ⟨tasks, h, holds⟩
  · exact .inl ⟨tasks, .inl broken⟩

end Close

/-! ## Serving a session -/

/-- Recording a grading event changes neither what the session failed to write nor its link,
and the registry frees the judge without offering anything. -/
theorem onGradingEvent_running (s : Session) (id : SubmissionId) (p : JudgePacket) :
    Triple (Running x w₁ T t (some s)) (JudgeTask.onGradingEvent s id p)
      fun s' => Running x w₁ T t (some s') := by
  unfold JudgeTask.onGradingEvent
  dsimp only
  have reseat : ∀ s' : Session, s'.undelivered = s.undelivered → s'.link = s.link →
      ∀ w, Running x w₁ T t (some s) w → Running x w₁ T t (some s') w :=
    fun s' undelivered link _ h => Running.less h fun _ holds => by
      unfold Session.Holds at holds ⊢
      rwa [undelivered, link] at holds
  split
  · split
    · exact Triple.pure _ (reseat _ rfl rfl)
    · exact Triple.pure _ fun _ h => h
  · refine Triple.bind (running_keep (JudgeTask.quiet_persist _ _) (JudgeTask.mute_persist _ _))
      fun _ => ?_
    split
    · split
      · next terminal => cases terminal
      · exact Triple.bind (running_registry (spares_of_call (.onJudgeFree _ _) (fun _ _ => rfl)
          fun _ _ => nofun)) fun _ => Triple.pure _ (reseat _ rfl rfl)
    · split
      · exact Triple.pure _ (reseat _ rfl rfl)
      · exact Triple.pure _ fun _ h => h

section Serve

variable (found : T[t]? = some (.judge jt₀)) (staffed : Staffed w₁ T)

include found staffed

/-- Writing a submission the session took: a submission of `x` goes only to the judge of a
session that held `x` when the abort returned. -/
theorem submit_running (jt : JudgeTask) (s : Session) (q : Request) (same : jt.conn = jt₀.conn) :
    Triple (Running x w₁ T t (some (s.holding (.submit q)))) (JudgeTask.submit jt s q)
      fun r => Running x w₁ T t (some r.2) :=
  JudgeTask.submit_triple (B := fun s => Running x w₁ T t (some s)) jt s q
    (running_keep (quiet_store _) (mute_store _))
    (fun _ => Guarded.keep (quiet_sendPacket _ _) (Withheld.send _ jt.conn fun _ h submits => by
      -- the session holds `q` in hand, so its task held it when the abort returned
      have holder := h.held t _ (Function.update_self _ _ _)
        (.inl (by rw [Session.holding_undelivered, List.map_append]; exact
          List.mem_append_right _ (List.mem_singleton.2 submits.symm)))
      exact same ▸ staffed.inFlight found holder))
    (running_keep quiet_now mute_now)
    (fun _ => running_keep (JudgeTask.quiet_persist _ _) (JudgeTask.mute_persist _ _))
    (fun _ _ h => Running.less h fun _ holds => holds.holding _) fun _ h => h

theorem onCommand_running (jt : JudgeTask) (s : Session) (cmd : Command) (same : jt.conn = jt₀.conn) :
    Triple (Running x w₁ T t (some (s.holding cmd))) (JudgeTask.onCommand jt s cmd)
      fun r => Running x w₁ T t (some r.2) :=
  JudgeTask.onCommand_triple (B := fun s => Running x w₁ T t (some s)) jt s cmd
    (fun q is => is ▸ submit_running found staffed jt s q same)
    (fun _ => Guarded.keep (quiet_sendPacket _ _) (Withheld.send _ jt.conn fun _ _ => nofun))
    (Guarded.keep (quiet_sendPacket _ _) (Withheld.send _ jt.conn fun _ _ => nofun))
    fun _ _ h => Running.less h fun _ holds => holds.holding _

variable (live : jt₀.stage ≠ .finished)

include live

/-- Each step of serving a judge keeps `x` withheld, or finds a session that held it closed. -/
theorem serve_steps_spared :
    JudgeTask.ServeSteps t jt₀.conn (fun s => Running x w₁ T t (some s))
      (fun s cmd => Running x w₁ T t (some (s.holding cmd))) (Spared x w₁) where
  pull jt _ := running_keep (JudgeTask.quiet_pull jt) (JudgeTask.mute_pull jt)
  clock _ := running_keep quiet_now mute_now
  choose _ ready := running_keep (JudgeTask.calm_choose ready).1 (JudgeTask.mute_choose ready)
  ping _ _ := Guarded.keep (quiet_sendPacket _ _) (Withheld.send _ _ fun _ _ => nofun)
  stamp _ _ _ h := Running.less h fun _ holds => holds
  reschedule _ _ _ h := Running.less h fun _ holds => holds
  packet s payload := JudgeTask.onPacket_triple (B := fun s => Running x w₁ T t (some s)) payload
    (fun id p _ => onGradingEvent_running s id p)
    (fun _ _ => running_registry (spares_of_call (.setPing _ _ _) (fun _ _ => rfl) fun _ _ => nofun))
    (fun _ _ => running_keep (quiet_store _) (mute_store _))
    (fun _ => running_registry (spares_of_call (.setProblems _ _) (fun _ _ => rfl) fun _ _ => nofun))
    fun _ => running_registry (spares_of_call (.setExecutors _ _) (fun _ _ => rfl) fun _ _ => nofun)
  take s := (Guarded.lift (fun w => (takeCommand_spec s.link w).2.1) Withheld.take).conseq
    (fun _ h => h) fun o _ h => by cases o <;> exact h
  command jt s cmd same := onCommand_running found staffed jt s cmd same
  close jt s same := close_spared found live staffed jt s same
  park jt s same := spared_setTask found live staffed { jt with stage := .serving s } same
  wake := fun w ⟨staffed, held⟩ => by
    obtain ⟨-, -, tasks⟩ := quiet_wake t w
    refine ⟨tasks ▸ staffed, ?_⟩
    rw [tasks]
    exact held.imp_left (Withheld.keep (quiet_wake t) (mute_wake t) w)

end Serve

/-! ## Admitting a judge -/

/-- A new link holds nothing, and leaves what waits on the others as it was. -/
theorem pendingOn_push_empty (links : Array Link) (owner : Option TaskId) (l : LinkId) :
    pendingOn (links.push { owner }) l = pendingOn links l := by
  by_cases inside : l < links.size
  · exact pendingOn_push_of_lt _ inside
  · rw [pendingOn_of_size_le (Nat.le_of_not_lt inside)]
    simp only [pendingOn, Array.getElem?_push]
    split
    · rfl
    · rw [Array.getElem?_eq_none (Nat.le_of_not_lt inside)]
      rfl

/-- Withheld with no session at `t`, and `x` not waiting on link `l`. -/
theorem free_keep {α : Type} {a : Act α} {sess : TaskId → Option Session} {l : LinkId}
    (quiet : Quiet a) (mute : Mute a) :
    Triple (fun w => Withheld x w₁ sess w ∧ x ∉ pendingOn w.links l) a
      fun _ w => Withheld x w₁ sess w ∧ x ∉ pendingOn w.links l :=
  fun w ⟨h, free⟩ => ⟨Withheld.keep quiet mute w h, by rw [(quiet w).2.1]; exact free⟩

theorem free_registry {α : Type} {op : RegistryOp α} {sess : TaskId → Option Session} {l : LinkId}
    (spares : op.Spares x) :
    Triple (fun w => Withheld x w₁ sess w ∧ x ∉ pendingOn w.links l) (Act.registry op)
      fun _ w => Withheld x w₁ sess w ∧ x ∉ pendingOn w.links l :=
  fun w ⟨h, free⟩ => ⟨Withheld.registry spares w h, fun waiting =>
    free (Withheld.registry_fewer spares w h.reachable h.unqueued _ waiting)⟩

/-- The link a task opens for its judge is empty. -/
theorem opened_free {w₀ w : World} {owner : Option TaskId} {link : LinkId}
    (held : Running x w₁ T t none w₀) (opened : (openLink owner).run w₀ = (link, w)) :
    Guarded x w₁ T (fun w => Withheld x w₁ (Function.update (sessionsOf T) t none) w ∧
      x ∉ pendingOn w.links link) w := by
  rw [openLink_run] at opened
  obtain ⟨rfl, rfl⟩ := Prod.mk.inj opened
  obtain ⟨tasks, held⟩ := held
  refine ⟨tasks, held.imp_left fun h => ⟨?_, ?_⟩⟩
  · exact h.links (mute_openLink owner w₀) rfl fun l => by rw [pendingOn_push_empty]; exact id
  · rw [pendingOn_push_empty, pendingOn_of_size_le le_rfl]
    exact List.not_mem_nil

section Welcome

variable (found : T[t]? = some (.judge jt₀)) (live : jt₀.stage ≠ .finished)
  (staffed : Staffed w₁ T)

include found live staffed

/-- A judge admitted over a new link: its session holds nothing, since the registry sends `x`
nowhere. -/
theorem welcome_spared (jt : JudgeTask) (same : jt.conn = jt₀.conn) (name key : String)
    (problems executors : List String) (tier : Option Nat) (fuel : Nat) :
    Triple (Running x w₁ T t none) (JudgeTask.welcome t jt name key problems executors tier fuel)
      fun _ => Spared x w₁ :=
  JudgeTask.welcome_triple (J := fun _ link => Guarded x w₁ T fun w =>
      Withheld x w₁ (Function.update (sessionsOf T) t none) w ∧ x ∉ pendingOn w.links link)
    (B := fun s => Running x w₁ T t (some s)) jt name key problems executors tier fuel
    (spared_release found live staffed jt same)
    (fun _ _ w enrolling => by
      obtain ⟨w₀, held, opened⟩ := enrolling
      exact Guarded.lift (registry_tasks _)
        (free_registry (spares_of_call (.register _ _ _ _ _ _) (fun _ _ => rfl) fun _ _ => nofun)) w
        (opened_free held opened))
    (fun _ _ => Guarded.keep quiet_now (free_keep quiet_now mute_now))
    (fun _ _ _ _ => Guarded.keep (JudgeTask.quiet_persist _ _)
      (free_keep (JudgeTask.quiet_persist _ _) (JudgeTask.mute_persist _ _)))
    (fun _ _ _ _ _ => (Guarded.keep (quiet_store _) (free_keep (quiet_store _) (mute_store _))).conseq
      (fun _ h => h) fun _ _ => Guarded.imp fun _ ⟨h, free⟩ => h.reseat fun _ seated holds => by
        cases seated
        exact absurd (holds.resolve_left List.not_mem_nil) free)
    (fun _ => Guarded.keep (quiet_sendPacket _ _) (Withheld.send _ _ fun _ _ => nofun))
    (fun s => JudgeTask.serve_triple (serve_steps_spared found staffed live) fuel jt s same)
    (fun s => close_spared found live staffed jt s same)

theorem awaitHandshake_spared (jt : JudgeTask) (same : jt.conn = jt₀.conn) (deadline fuel : Nat) :
    Triple (Running x w₁ T t none) (JudgeTask.awaitHandshake t jt deadline fuel)
      fun _ => Spared x w₁ :=
  JudgeTask.awaitHandshake_triple jt deadline fuel
    (fun jt => running_keep (JudgeTask.quiet_readPacket jt) (JudgeTask.mute_readPacket jt))
    (running_keep quiet_now mute_now)
    (fun jt' same' => spared_release found live staffed jt' (same'.trans same))
    (fun jt' same' idle => (spared_setTask found live staffed jt' (same'.trans same)).conseq
      (fun _ h => by rwa [idle]) fun _ _ h => h)
    fun jt' name key problems executors tier same' =>
      welcome_spared found live staffed jt' (same'.trans same) name key problems executors tier fuel

theorem awaitProxyHeader_spared (jt : JudgeTask) (same : jt.conn = jt₀.conn) (deadline fuel : Nat) :
    Triple (Running x w₁ T t none) (JudgeTask.awaitProxyHeader t jt deadline fuel)
      fun _ => Spared x w₁ :=
  JudgeTask.awaitProxyHeader_triple jt deadline fuel
    (fun jt => running_keep (JudgeTask.quiet_pull jt) (JudgeTask.mute_pull jt))
    (running_keep quiet_now mute_now)
    (fun jt' same' => spared_release found live staffed jt' (same'.trans same))
    (fun jt' same' idle => (spared_setTask found live staffed jt' (same'.trans same)).conseq
      (fun _ h => by rwa [idle]) fun _ _ h => h)
    fun jt' d same' => awaitHandshake_spared found live staffed jt' (same'.trans same) d fuel

end Welcome

/-- Running the judge's task found at `t`, until it waits. -/
theorem JudgeTask.poll_spared (found : T[t]? = some (.judge jt₀)) :
    Triple (fun w => w.tasks = T ∧ Spared x w₁ w) (JudgeTask.poll t jt₀) fun _ => Spared x w₁ := by
  by_cases done : jt₀.stage = .finished
  · -- a finished task does nothing
    unfold JudgeTask.poll
    simp only [done]
    exact Triple.bind Triple.get_keeps fun _ => Triple.pure _ fun _ h => h.2
  rintro w ⟨tasks, spared⟩
  have staffed : Staffed w₁ T := tasks ▸ spared.1
  -- the task's place holds the session it serves, or none
  have seat : ∀ o w, w.tasks = T → Spared x w₁ w → sessionsOf T t = o → Running x w₁ T t o w := by
    rintro o w tasks ⟨-, held⟩ sits
    rw [tasks] at held
    exact ⟨tasks, by rwa [Function.update_eq_self_iff.2 sits.symm]⟩
  exact JudgeTask.poll_triple_at (V := Running x w₁ T t none)
    (B := fun s => Running x w₁ T t (some s)) found (fun w tasks spared idle => seat _ w tasks spared idle)
    (fun s w tasks spared sits => seat _ w tasks spared sits) (fun _ h => h)
    (running_keep quiet_now mute_now)
    (fun jt d fuel same => awaitProxyHeader_spared found done staffed jt same d fuel)
    (fun jt d fuel same => awaitHandshake_spared found done staffed jt same d fuel)
    (fun s fuel => JudgeTask.serve_triple (serve_steps_spared found staffed done) fuel jt₀ s rfl)
    w ⟨tasks, spared⟩

/-- A control task of tasks that run no control connection has finished, and does nothing. -/
theorem ControlTask.poll_spared {ct : ControlTask} (found : T[t]? = some (.control ct)) :
    Triple (fun w => w.tasks = T ∧ Spared x w₁ w) (ControlTask.poll t ct) fun _ => Spared x w₁ := by
  rintro w ⟨tasks, spared⟩
  have finished := spared.1.1 t ct (tasks ▸ found)
  unfold ControlTask.poll
  simp only [finished]
  exact spared

end Tasks

/-! ## Every event -/

section Events

variable {x : SubmissionId} {w₁ : World}

theorem spared_keep {α : Type} {a : Act α} (quiet : Quiet a) (mute : Mute a) :
    Triple (Spared x w₁) a fun _ => Spared x w₁ := by
  rintro w ⟨staffed, held⟩
  obtain ⟨-, -, tasks⟩ := quiet w
  unfold Spared
  rw [tasks]
  exact ⟨staffed, held.imp_left (Withheld.keep quiet mute w)⟩

theorem spared_registry {α : Type} {op : RegistryOp α} (spares : op.Spares x) :
    Triple (Spared x w₁) (Act.registry op) fun _ => Spared x w₁ := by
  rintro w ⟨staffed, held⟩
  unfold Spared
  rw [registry_tasks]
  exact ⟨staffed, held.imp_left (Withheld.registry spares w)⟩

theorem spared_dispatch (r : Request) (differ : r.id ≠ x) :
    Triple (Spared x w₁) (Act.dispatch r) fun _ => Spared x w₁ :=
  dispatch_triple r (spared_keep calm_drawTieBreak.1 mute_drawTieBreak) fun tie =>
    spared_registry (Call.spares_of (.dispatch r tie) (fun _ _ => rfl) fun _ _ offer => by
      cases offer
      exact differ)

/-- An event that brings no new offer of `x`: no control connection, and no control request
that submits `x`. -/
def Event.Spares (x : SubmissionId) : Event → Prop
  | .connectControl _ => False
  | .request (.submit id _ _ _ _ _) => id ≠ x
  | _ => True

instance (x : SubmissionId) (e : Event) : Decidable (e.Spares x) := by
  unfold Event.Spares
  split <;> infer_instance

/-- A control request other than a submission of `x` offers the registry nothing under `x`. -/
theorem process_spared (req : ControlRequest) (spares : (Event.request req).Spares x) :
    Triple (Spared x w₁) (ControlTask.process req) fun _ => Spared x w₁ :=
  ControlTask.process_triple req
    (fun r ⟨_, _, _, _, _, is⟩ => spared_dispatch r (by subst is; exact spares))
    (fun _ => spared_registry (spares_of_call (.abort _) (fun _ _ => rfl) fun _ _ => nofun))
    (fun _ _ => spared_registry (spares_of_call (.disconnect _ _) (fun _ _ => rfl) fun _ _ => nofun))
    (fun _ _ => spared_registry (spares_of_call (.setDisabled _ _) (fun _ _ => rfl) fun _ _ => nofun))
    fun _ _ => spared_keep (quiet_bind (quiet_store _) fun _ => quiet_pure _)
      (mute_bind (mute_store _) fun _ => mute_pure _)

/-- A judge connects: a new connection, on which nothing was read, and a task that serves no
session yet. -/
theorem connectJudge_spared (label : String) (peer : SocketAddress) (viaProxy : Bool) :
    Triple (Spared x w₁) (World.connectJudge label peer viaProxy) fun _ => Spared x w₁ := by
  unfold World.connectJudge World.openConn
  refine Triple.bind Triple.get_self fun w₀ => ?_
  refine Triple.bind (?_ : Triple _ (set _) fun _ => Spared x w₁) fun _ =>
    Triple.bind (spared_keep (quiet_wake _) (mute_wake _)) fun _ => Triple.pure _ fun _ h => h
  rintro w ⟨same, staffed, held⟩
  subst same
  refine ⟨staffed.push _, ?_⟩
  change Withheld x w₁ (sessionsOf (w₀.tasks.push _)) _ ∨ Broken x w₁ (w₀.tasks.push _)
  rw [sessionsOf_push rfl]
  refine held.imp (fun h => ?_) fun broken => broken.push _
  exact { wired := h.wired.push label rfl rfl
          reachable := h.reachable
          unqueued := h.unqueued
          held := h.held
          read := fun c => (h.read c).unwritten (World.received_push label rfl c) }

theorem Event.act_spared (e : Event) (spares : e.Spares x) :
    Triple (Spared x w₁) e.act fun _ => Spared x w₁ :=
  e.act_triple (fun _ calm mute => spared_keep calm.1 mute)
    (fun label peer viaProxy _ => connectJudge_spared label peer viaProxy)
    (fun _ is => by subst is; exact spares.elim)
    (fun req is => by subst is; exact process_spared req spares)
    (fun _ => spared_registry (spares_of_call (.disconnectAll _) (fun _ _ => rfl) fun _ _ => nofun))
    (fun _ _ => spared_keep (quiet_store _) (mute_store _))
    (World.pollTask_keeps (fun _ _ _ found => JudgeTask.poll_spared found)
      fun _ _ _ found => ControlTask.poll_spared found)

/-- Every run of events that bring no new offer of `x`. -/
theorem World.after_spared {es : List Event} (spares : ∀ e ∈ es, e.Spares x) {w : World}
    (spared : Spared x w₁ w) : Spared x w₁ (w.after es) := by
  induction es generalizing w with
  | nil => exact spared
  | cons e es ih =>
    exact ih (fun e' mem => spares e' (.tail _ mem))
      (Event.act_spared e (spares e (.head _)) _ spared)

end Events

/-! ## After the abort returned -/

/-- The control listener's termination request: it aborts `x` in the registry, and leaves the
tasks. -/
theorem terminate_run (x : SubmissionId) (w : World) :
    (w.after [.request (.terminate x)]).tasks = w.tasks ∧
      (w.after [.request (.terminate x)]).registry = ((Call.abort x).run w.linkOpen w.registry).1 := by
  obtain ⟨-, registry, tasks, -⟩ := registry_spec (.abort x) w
  dsimp only [World.after, List.foldl, Event.act, ControlTask.process, run_bind]
  -- recording the abort in the store leaves the rest
  split
  · exact ⟨tasks, registry⟩
  · exact ⟨tasks, registry⟩

/-- Right after the abort returned, `x` is withheld: the registry no longer queues it, and the
sessions that hold it are the ones that held it then. -/
theorem spared_aborted {w : World} (reach : w.Reachable) (x : SubmissionId)
    (controls : ∀ (t : TaskId) (ct : ControlTask), w.tasks[t]? = some (.control ct) → ct.stage = .finished) :
    Spared x (w.after [.request (.terminate x)]) (w.after [.request (.terminate x)]) := by
  obtain ⟨tasks, registry⟩ := terminate_run x w
  have reach₁ := reach.after [.request (.terminate x)]
  refine ⟨⟨fun t ct found => controls t ct (tasks ▸ found), fun t task found => by rw [found]; rfl⟩,
    .inl ?_⟩
  exact { wired := reach₁.wired
          reachable := reach₁.registry
          unqueued := registry ▸ Call.abort_unwaiting x w.linkOpen reach.registry.consistent
          held := fun t s found holds => World.mem_holders.2 ⟨s, found, holds⟩
          read := fun c => .refl _ _ }

/-- An abort holds, but for what was already on its way. Once the control listener's request to
terminate `x` has returned, in a relay with no control connection open, and along any events
that bring no new offer of `x`, whatever a client finds on its connection is spared: a packet
that submits `x` reaches only the judge of a session that held `x` when the abort returned, on
its link or after a write that failed. This holds for as long as every such session is open:
one that closes hands `x` back to the registry. -/
theorem abort_holds {w : World} (reach : w.Reachable) (x : SubmissionId)
    (controls : ∀ (t : TaskId) (ct : ControlTask), w.tasks[t]? = some (.control ct) → ct.stage = .finished)
    (es : List Event) (spares : ∀ e ∈ es, e.Spares x) :
    let w₁ := w.after [.request (.terminate x)]
    (∀ t ∈ w₁.holders x, (sessionsOf (w₁.after es).tasks t).isSome) →
      ∀ c, Received.Since (Received.Spares x w₁ c) (w₁.received c) ((w₁.after es).received c) := by
  dsimp only
  intro serving c
  obtain ⟨-, held⟩ := World.after_spared spares (spared_aborted reach x controls)
  rcases held with h | ⟨t, holder, jt, there, finished⟩
  · exact h.read c
  · -- a task whose session held `x` has finished, and serves no session
    have open_ := serving t holder
    simp [sessionsOf, there, Task.session?, finished] at open_

/-- No control task is live among tasks read off one by one. -/
theorem controls_finished_of_all {T : Array Task}
    (idle : T.all (fun task => match task with
      | .control ct => (ct.stage matches .finished)
      | .judge _ => true) = true) :
    ∀ (t : TaskId) (ct : ControlTask), T[t]? = some (.control ct) → ct.stage = .finished := by
  intro t ct found
  obtain ⟨inside, there⟩ := Array.getElem?_eq_some_iff.1 found
  have finished := Array.all_eq_true.1 idle t inside
  rw [there] at finished
  rcases stage : ct.stage with _ | _ | _ <;> simp [stage] at finished ⊢

/-- The read of what a client found: the payload of a packet, or nothing for a frame it could
not read. -/
def Received.payload? : Received → Option ByteArray
  | .packet q => some q
  | .failure _ => none

namespace AbortRace

/-- The frame of a judge's handshake. -/
def hello (name key : String) : ByteArray :=
  let packet : Json.Value := .obj [("name", .str "handshake"), ("id", .str name), ("key", .str key),
    ("problems", .arr [.str "aplusb"]), ("executors", .arr [.str "PY3"])]
  (Frame.encode Deflate.zlib packet.toBytes).toOption.getD ByteArray.empty

/-- A relay that lists judges `alpha` and `beta`, with a store that logs every call. -/
def start : World :=
  { auth := { judges := [⟨"alpha", "alpha-key", ⟨1, false⟩⟩, ⟨"beta", "beta-key", ⟨1, false⟩⟩] }
    store := .log {} }

/-- `alpha` is admitted over connection 0 and reads the reply; then submission 1 is offered,
and the registry sends it to `alpha`, whose task has not yet run. -/
def delivered : World :=
  start.after [.connectJudge "alpha" Handshake.peer false, .write 0 (hello "alpha" "alpha-key"),
    .settle, .takeReceived 0, .request (.submit 1 "aplusb" "PY3" "" none 0)]

/-- `alpha` and `beta` are admitted over connections 0 and 1 and read their replies, and
`alpha`'s client stops reading; then submission 1 is offered, and the registry sends it to
`alpha`. -/
def stalled : World :=
  start.after [.connectJudge "alpha" Handshake.peer false, .write 0 (hello "alpha" "alpha-key"),
    .connectJudge "beta" Handshake.peer false, .write 1 (hello "beta" "beta-key"), .settle,
    .takeReceived 0, .takeReceived 1, .stopReading 0, .request (.submit 1 "aplusb" "PY3" "" none 0)]

end AbortRace

open AbortRace in
/-- `alpha` still reads: its session writes submission 1, then the abort, and stays open; what
`alpha`'s client read since the abort is spared. -/
theorem abort_holds_while_alpha_serves :
    let aborted := delivered.after [.request (.terminate 1)]
    (∀ t ∈ aborted.holders 1, (sessionsOf (aborted.after [.settle]).tasks t).isSome) ∧
      Received.Since (Received.Spares 1 aborted 0) (aborted.received 0)
        ((aborted.after [.settle]).received 0) :=
  have computed : delivered.tasks.all (fun task => match task with
      | .control ct => (ct.stage matches .finished)
      | .judge _ => true) = true ∧
      ∀ t ∈ (delivered.after [.request (.terminate 1)]).holders 1,
        (sessionsOf ((delivered.after [.request (.terminate 1)]).after [.settle]).tasks t).isSome := by
    decide +kernel
  ⟨computed.2, abort_holds ((World.Reachable.start _ _).after _) 1
    (controls_finished_of_all computed.1) [.settle] (by decide) computed.2 0⟩

open AbortRace in
/-- An abort undone by the relay. `alpha` no longer reads when submission 1 is sent to it, and
the control listener's termination request answers that `alpha` was told to abort. Only
`alpha`'s task held 1. In the next round `alpha`'s session fails to write the submission,
closes, drops the abort and hands 1 back to the registry, which sends it to `beta`: `beta`'s
client reads the submission-request of 1. -/
theorem close_reroutes_aborted :
    ((ControlTask.process (.terminate 1)).run stalled).1 = .terminated true ∧
      (stalled.after [.request (.terminate 1)]).holders 1 = [0] ∧
      (sessionsOf ((stalled.after [.request (.terminate 1)]).after [.settle]).tasks 0).isSome =
        false ∧
      (((stalled.after [.request (.terminate 1)]).after [.settle]).received 1).map
          Received.payload? =
        [some (RelayPacket.submission 1 "aplusb" "PY3" "" Limits.default).toJson.toBytes] := by
  decide +kernel

end JudgeRelay
