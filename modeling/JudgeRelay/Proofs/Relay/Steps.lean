import JudgeRelay.Proofs.Registry.Ledger
import JudgeRelay.Relay.Scheduler

/-!
# Steps of the world

What each step of the world does to the parts that the registry and the sessions share: the
registry, the links and the tasks.

* `Act.Triple pre a post`: from a world satisfying `pre`, the step `a` ends in a world
  satisfying `post` of its result. Triples compose along `bind` (`Triple.bind`), so a task's
  run is followed one step at a time.
* Most steps touch none of the three (`Act.Quiet`): the clock, the store, the connections and
  the ready queue are not shared with the registry. Those that leave the store alone too are
  calm (`Act.Calm`).
* A registry operation replaces the registry and delivers what it sends: each link then holds
  what it held and what the operation handed over on it (`registry_spec`).
* A session takes the oldest command off its link (`takeCommand_spec`), and on leaving closes
  its link and takes all that is left (`closeLink_spec`); a new judge gets a fresh link
  (`openLink_run`).
-/

namespace JudgeRelay

/-- The submissions waiting on a link, oldest first. -/
def pendingOn (links : Array Link) (l : LinkId) : List SubmissionId :=
  ((links[l]?.map (·.inbox)).getD []).filterMap Command.handsOver

/-- The session a task serves, if it serves one. -/
def Task.session? : Task → Option Session
  | .judge jt =>
    match jt.stage with
    | .serving s => some s
    | _ => none
  | .control _ => none

/-- The session each task serves. -/
def sessionsOf (tasks : Array Task) (t : TaskId) : Option Session := tasks[t]?.bind Task.session?

theorem pendingOn_of_ne {links : Array Link} {l l' : LinkId} {v : Link} (differ : l ≠ l') :
    pendingOn (links.set! l v) l' = pendingOn links l' := by
  simp [pendingOn, differ]

theorem pendingOn_set {links : Array Link} {l : LinkId} {v : Link} (inside : l < links.size) :
    pendingOn (links.set! l v) l = v.inbox.filterMap Command.handsOver := by
  simp [pendingOn, inside]

theorem pendingOn_push_of_lt {links : Array Link} {l : LinkId} (v : Link) (inside : l < links.size) :
    pendingOn (links.push v) l = pendingOn links l := by
  simp [pendingOn, Array.getElem?_push, Nat.ne_of_lt inside]

theorem pendingOn_of_size_le {links : Array Link} {l : LinkId} (beyond : links.size ≤ l) :
    pendingOn links l = [] := by
  simp [pendingOn, Array.getElem?_eq_none beyond]

theorem sessionsOf_set {tasks : Array Task} {t : TaskId} (inside : t < tasks.size) (task : Task) :
    sessionsOf (tasks.set! t task) = Function.update (sessionsOf tasks) t task.session? := by
  funext t'
  by_cases same : t' = t
  · subst same
    simp [sessionsOf, inside]
  · simp [sessionsOf, Ne.symm same, same]

/-- A task that serves no session may be stored anywhere: past the tasks, storing it changes
nothing, and no session was there. -/
theorem sessionsOf_set_idle {tasks : Array Task} (t : TaskId) {task : Task}
    (idle : task.session? = none) :
    sessionsOf (tasks.set! t task) = Function.update (sessionsOf tasks) t none := by
  by_cases inside : t < tasks.size
  · rw [sessionsOf_set inside, idle]
  · have beyond : tasks.size ≤ t := Nat.le_of_not_lt inside
    have unchanged : tasks.set! t task = tasks := Array.setIfInBounds_eq_of_size_le beyond
    have none : sessionsOf tasks t = none := by simp [sessionsOf, Array.getElem?_eq_none beyond]
    rw [unchanged, ← none, Function.update_eq_self]

theorem sessionsOf_push {tasks : Array Task} {task : Task} (idle : task.session? = none) :
    sessionsOf (tasks.push task) = sessionsOf tasks := by
  funext t
  simp only [sessionsOf, Array.getElem?_push]
  split
  · next same =>
    subst same
    simp [idle]
  · rfl

/-- A connection the relay did not write to: the client's decoder is as it was, and what the
client read is as it was, or was looked at and cleared. -/
def Conn.Unwritten (c c' : Conn) : Prop :=
  c'.decoder = c.decoder ∧ (c'.received = c.received ∨ c'.received = [])

namespace Conn

theorem Unwritten.refl (c : Conn) : c.Unwritten c := ⟨rfl, .inl rfl⟩

theorem Unwritten.trans {c c' c'' : Conn} (h : c.Unwritten c') (h' : c'.Unwritten c'') :
    c.Unwritten c'' := by
  refine ⟨h'.1.trans h.1, ?_⟩
  rcases h'.2 with same | cleared
  · rcases h.2 with same' | cleared'
    · exact .inl (same.trans same')
    · exact .inr (same.trans cleared')
  · exact .inr cleared

theorem unwritten_serverRead (c : Conn) : c.Unwritten c.serverRead.2 := ⟨rfl, .inl rfl⟩

theorem unwritten_serverShutdown (c : Conn) : c.Unwritten c.serverShutdown := ⟨rfl, .inl rfl⟩

theorem unwritten_serverDrop (c : Conn) : c.Unwritten c.serverDrop := ⟨rfl, .inl rfl⟩

theorem unwritten_clientWrite (c : Conn) (bytes : ByteArray) : c.Unwritten (c.clientWrite bytes).2 := by
  unfold clientWrite
  split
  · exact .refl c
  · exact ⟨rfl, .inl rfl⟩

theorem unwritten_clientShutdown (c : Conn) : c.Unwritten c.clientShutdown := ⟨rfl, .inl rfl⟩

theorem unwritten_clientDrop (c : Conn) : c.Unwritten c.clientDrop := ⟨rfl, .inl rfl⟩

theorem unwritten_clientStopReading (c : Conn) : c.Unwritten c.clientStopReading := ⟨rfl, .inl rfl⟩

theorem unwritten_look (c : Conn) : c.Unwritten c.look.2 := ⟨rfl, .inr rfl⟩

theorem unwritten_takeReceived (c : Conn) : c.Unwritten c.takeReceived.2 := ⟨rfl, .inr rfl⟩

end Conn

/-- From `w` to `w'` the relay wrote to no client: its codec is as it was, no connection came or
went, and none was written to. -/
def World.Unwritten (w w' : World) : Prop :=
  w'.zlib = w.zlib ∧ ∀ c : ConnId, Option.Rel Conn.Unwritten w.conns[c]? w'.conns[c]?

namespace World

theorem Unwritten.refl (w : World) : w.Unwritten w := by
  refine ⟨rfl, fun c => ?_⟩
  cases w.conns[c]? with
  | none => exact .none
  | some conn => exact .some (.refl conn)

theorem Unwritten.trans {w w' w'' : World} (h : w.Unwritten w') (h' : w'.Unwritten w'') :
    w.Unwritten w'' := by
  refine ⟨h'.1.trans h.1, fun c => ?_⟩
  -- a connection the relay left alone twice
  have first := h.2 c
  have second := h'.2 c
  revert first second
  generalize w.conns[c]? = a
  generalize w'.conns[c]? = b
  generalize w''.conns[c]? = d
  intro first second
  cases first with
  | none => cases second; exact .none
  | some first => cases second with
    | some second => exact .some (first.trans second)

theorem Unwritten.of_conns {w w' : World} (conns : w'.conns = w.conns) (zlib : w'.zlib = w.zlib) :
    w.Unwritten w' :=
  ⟨zlib, fun c => by rw [conns]; exact (Unwritten.refl w).2 c⟩

theorem Unwritten.modify (w : World) (c : ConnId) {f : Conn → Conn}
    (hf : ∀ conn, Conn.Unwritten conn (f conn)) :
    w.Unwritten { w with conns := w.conns.modify c f } := by
  refine ⟨rfl, fun c' => ?_⟩
  simp only [Array.getElem?_modify]
  split
  · cases w.conns[c']? with
    | none => exact .none
    | some conn => exact .some (hf conn)
  · exact (Unwritten.refl w).2 c'

theorem Unwritten.set (w : World) (c : ConnId) {conn' : Conn}
    (hf : ∀ conn, w.conns[c]? = some conn → Conn.Unwritten conn conn') :
    w.Unwritten { w with conns := w.conns.set! c conn' } := by
  refine ⟨rfl, fun c' => ?_⟩
  simp only [Array.set!_eq_setIfInBounds, Array.getElem?_setIfInBounds]
  split
  · next same =>
    subst same
    split
    · next inside =>
      rw [Array.getElem?_eq_getElem inside]
      exact .some (hf _ (Array.getElem?_eq_getElem inside))
    · next beyond => rw [Array.getElem?_eq_none (Nat.le_of_not_lt beyond)]; exact .none
  · exact (Unwritten.refl w).2 c'

end World

namespace Act

variable {α β γ : Type}

-- Running a step, one `bind` at a time.
@[simp] theorem run_bind (x : Act α) (f : α → Act β) (w : World) :
    (x >>= f).run w = (f (x.run w).1).run (x.run w).2 := rfl

@[simp] theorem run_get (w : World) : (MonadState.get : Act World).run w = (w, w) := rfl

@[simp] theorem run_set (w w' : World) : (set w' : Act PUnit).run w = ((), w') := rfl

@[simp] theorem run_pure (v : α) (w : World) : (Pure.pure v : Act α).run w = (v, w) := rfl

/-- From a world satisfying `pre`, the step `a` ends in a world satisfying `post` of its
result. -/
def Triple (pre : World → Prop) (a : Act α) (post : α → World → Prop) : Prop :=
  ∀ w, pre w → post (a.run w).1 (a.run w).2

namespace Triple

variable {P P' : World → Prop} {Q Q' : α → World → Prop} {S : β → World → Prop} {a : Act α}

theorem bind {x : Act α} {f : α → Act β} (hx : Triple P x Q) (hf : ∀ v, Triple (Q v) (f v) S) :
    Triple P (x >>= f) S :=
  fun w hw => hf _ _ (hx w hw)

theorem pure (v : α) (h : ∀ w, P w → Q v w) : Triple P (Pure.pure v : Act α) Q := h

theorem get {Q : World → World → Prop} : Triple (fun w => Q w w) (MonadState.get : Act World) Q :=
  fun _ hw => hw

theorem get_keeps : Triple P (MonadState.get : Act World) fun _ => P := fun _ hw => hw

theorem get_self : Triple P (MonadState.get : Act World) fun v w => v = w ∧ P w :=
  fun _ hw => ⟨rfl, hw⟩

/-- A step ends where running it ends. -/
theorem strongest (x : Act α) : Triple P x fun v w => ∃ w₀, P w₀ ∧ x.run w₀ = (v, w) :=
  fun w hw => ⟨w, hw, rfl⟩

theorem map {x : Act α} (f : α → β) (h : Triple P x fun v => S (f v)) : Triple P (f <$> x) S := h

theorem conseq (ht : Triple P a Q) (hp : ∀ w, P' w → P w) (hq : ∀ v w, Q v w → Q' v w) :
    Triple P' a Q' :=
  fun w hw => hq _ _ (ht w (hp w hw))

/-- A fact about every result of a step holds after it too. -/
theorem result {R : α → Prop} (h : Triple P a Q) (fact : ∀ w, R (a.run w).1) :
    Triple P a fun v w => Q v w ∧ R v :=
  fun w hw => ⟨h w hw, fact w⟩

/-- A triple whose precondition carries a fact about the step's inputs. -/
theorem assume {φ : Prop} (h : φ → Triple P a Q) : Triple (fun w => P w ∧ φ) a Q :=
  fun w hw => h hw.2 w hw.1

/-- A step that keeps `I` for each member of a list keeps it over the list. -/
theorem forM_mem {I : World → Prop} {g : γ → Act PUnit} :
    ∀ {xs : List γ}, (∀ x ∈ xs, Triple I (g x) fun _ => I) → Triple I (xs.forM g) fun _ => I
  | [], _ => fun _ hw => hw
  | x :: xs, hg => bind (hg x (List.mem_cons_self ..)) fun _ =>
    forM_mem fun y member => hg y (List.mem_cons_of_mem x member)

/-- A step that keeps `I` for every element of a list keeps it over the list. -/
theorem forM {I : World → Prop} {g : γ → Act PUnit} (hg : ∀ x, Triple I (g x) fun _ => I) :
    ∀ xs : List γ, Triple I (xs.forM g) fun _ => I
  | [] => fun _ hw => hw
  | x :: xs => bind (hg x) fun _ => forM hg xs

end Triple

/-- A step that leaves the registry, the links and the tasks as they were. -/
def Quiet (a : Act α) : Prop :=
  ∀ w, (a.run w).2.registry = w.registry ∧ (a.run w).2.links = w.links ∧
    (a.run w).2.tasks = w.tasks

theorem Quiet.triple {a : Act α} (h : Quiet a) (I : Registry → Array Link → Array Task → Prop) :
    Triple (fun w => I w.registry w.links w.tasks) a fun _ w => I w.registry w.links w.tasks := by
  intro w hw
  obtain ⟨registry, links, tasks⟩ := h w
  rw [registry, links, tasks]
  exact hw

theorem quiet_bind {x : Act α} {f : α → Act β} (hx : Quiet x) (hf : ∀ v, Quiet (f v)) :
    Quiet (x >>= f) := fun w => by
  obtain ⟨r, l, t⟩ := hx w
  obtain ⟨r', l', t'⟩ := hf (x.run w).1 (x.run w).2
  exact ⟨r'.trans r, l'.trans l, t'.trans t⟩

theorem quiet_pure (v : α) : Quiet (Pure.pure v : Act α) := fun _ => ⟨rfl, rfl, rfl⟩

theorem quiet_modify {f : World → World}
    (h : ∀ w, (f w).registry = w.registry ∧ (f w).links = w.links ∧ (f w).tasks = w.tasks) :
    Quiet (modify f : Act PUnit) := h

theorem quiet_get : Quiet (MonadState.get : Act World) := fun _ => ⟨rfl, rfl, rfl⟩

theorem quiet_now : Quiet now := fun _ => ⟨rfl, rfl, rfl⟩

theorem quiet_wake (t : TaskId) : Quiet (wake t) :=
  quiet_modify fun w => by split <;> exact ⟨rfl, rfl, rfl⟩

theorem quiet_modifyConn (c : ConnId) (f : Conn → Conn) : Quiet (modifyConn c f) :=
  quiet_modify fun _ => ⟨rfl, rfl, rfl⟩

theorem quiet_onConn (c : ConnId) (f : Conn → α × Conn) (d : α) : Quiet (onConn c f d) := fun w => by
  unfold onConn
  simp only [run_bind, run_get]
  split <;> exact ⟨rfl, rfl, rfl⟩

theorem quiet_store (call : StoreCall) : Quiet (Act.store call) := fun _ => ⟨rfl, rfl, rfl⟩

/-- A quiet step that leaves the store as it was too: it moves only the clock, the ready queue
or the connections. -/
def Calm (a : Act α) : Prop := Quiet a ∧ ∀ w, (a.run w).2.store = w.store

theorem calm_bind {x : Act α} {f : α → Act β} (hx : Calm x) (hf : ∀ v, Calm (f v)) :
    Calm (x >>= f) :=
  ⟨quiet_bind hx.1 fun v => (hf v).1, fun w => ((hf _).2 _).trans (hx.2 w)⟩

theorem calm_pure (v : α) : Calm (Pure.pure v : Act α) := ⟨quiet_pure v, fun _ => rfl⟩

theorem calm_modify {f : World → World}
    (h : ∀ w, (f w).registry = w.registry ∧ (f w).links = w.links ∧ (f w).tasks = w.tasks ∧
      (f w).store = w.store) :
    Calm (modify f : Act PUnit) :=
  ⟨fun w => ⟨(h w).1, (h w).2.1, (h w).2.2.1⟩, fun w => (h w).2.2.2⟩

theorem calm_get : Calm (MonadState.get : Act World) := ⟨quiet_get, fun _ => rfl⟩

theorem calm_now : Calm now := ⟨quiet_now, fun _ => rfl⟩

theorem calm_wake (t : TaskId) : Calm (wake t) :=
  calm_modify fun w => by split <;> exact ⟨rfl, rfl, rfl, rfl⟩

theorem calm_modifyConn (c : ConnId) (f : Conn → Conn) : Calm (modifyConn c f) :=
  calm_modify fun _ => ⟨rfl, rfl, rfl, rfl⟩

theorem calm_onConn (c : ConnId) (f : Conn → α × Conn) (d : α) : Calm (onConn c f d) := by
  refine ⟨quiet_onConn c f d, fun w => ?_⟩
  unfold onConn
  simp only [run_bind, run_get]
  split <;> rfl

theorem calm_sendPacket (c : ConnId) (packet : Json.Value) : Calm (sendPacket c packet) := by
  unfold sendPacket
  refine calm_bind calm_get fun w => ?_
  split
  · exact calm_onConn _ _ _
  · exact calm_pure _

theorem quiet_sendPacket (c : ConnId) (packet : Json.Value) : Quiet (sendPacket c packet) :=
  (calm_sendPacket c packet).1

/-- Drawing a tie-break or tossing a coin only moves along its tape. -/
theorem calm_drawTieBreak : Calm drawTieBreak := ⟨fun _ => ⟨rfl, rfl, rfl⟩, fun _ => rfl⟩

theorem calm_toss : Calm toss := ⟨fun _ => ⟨rfl, rfl, rfl⟩, fun _ => rfl⟩

/-! ## Steps on the links -/

theorem takeCommand_run (l : LinkId) (w : World) :
    (takeCommand l).run w =
      match w.links[l]? with
      | some link =>
        match link.inbox with
        | c :: rest => (some c, { w with links := w.links.set! l { link with inbox := rest } })
        | [] => (none, w)
      | none => (none, w) := by
  unfold takeCommand
  simp only [run_bind, run_get]
  rcases w.links[l]? with _ | link
  · rfl
  · dsimp only
    rcases link.inbox with _ | ⟨c, rest⟩ <;> rfl

/-- Taking a command: the command taken was the oldest on the link, and nothing else changes. -/
theorem takeCommand_spec (l : LinkId) (w : World) :
    let x := (takeCommand l).run w
    x.2.registry = w.registry ∧ x.2.tasks = w.tasks ∧ x.2.links.size = w.links.size ∧
      (∀ l', l ≠ l' → pendingOn x.2.links l' = pendingOn w.links l') ∧
      pendingOn w.links l = (x.1.bind Command.handsOver).toList ++ pendingOn x.2.links l := by
  rw [takeCommand_run]
  split
  · next link found =>
    have inside : l < w.links.size := (Array.getElem?_eq_some_iff.1 found).1
    have old : pendingOn w.links l = link.inbox.filterMap Command.handsOver := by
      simp [pendingOn, found]
    split
    · next c rest inbox =>
      refine ⟨rfl, rfl, by simp, fun l' differ => pendingOn_of_ne differ, ?_⟩
      rw [pendingOn_set inside, old, inbox, List.filterMap_cons]
      rcases hands : c.handsOver with _ | x <;> simp [hands]
    · exact ⟨rfl, rfl, rfl, fun _ _ => rfl, rfl⟩
  · exact ⟨rfl, rfl, rfl, fun _ _ => rfl, rfl⟩

theorem closeLink_run (l : LinkId) (w : World) :
    (closeLink l).run w =
      match w.links[l]? with
      | some link =>
        (link.inbox, { w with links := w.links.set! l { link with isOpen := false, inbox := [] } })
      | none => ([], w) := by
  unfold closeLink
  simp only [run_bind, run_get]
  rcases w.links[l]? with _ | link <;> rfl

/-- Closing a link: it is left empty, and what it held is taken. -/
theorem closeLink_spec (l : LinkId) (w : World) :
    let x := (closeLink l).run w
    x.2.registry = w.registry ∧ x.2.tasks = w.tasks ∧ x.2.links.size = w.links.size ∧
      (∀ l', l ≠ l' → pendingOn x.2.links l' = pendingOn w.links l') ∧
      pendingOn x.2.links l = [] ∧ x.1.filterMap Command.handsOver = pendingOn w.links l := by
  rw [closeLink_run]
  split
  · next link found =>
    have inside : l < w.links.size := (Array.getElem?_eq_some_iff.1 found).1
    refine ⟨rfl, rfl, by simp, fun l' differ => pendingOn_of_ne differ, ?_, ?_⟩
    · rw [pendingOn_set inside]
      rfl
    · simp [pendingOn, found]
  · next found =>
    have beyond : w.links.size ≤ l := Array.getElem?_eq_none_iff.1 found
    exact ⟨rfl, rfl, rfl, fun _ _ => rfl, pendingOn_of_size_le beyond, by simp [pendingOn, found]⟩

theorem openLink_run (owner : Option TaskId) (w : World) :
    (openLink owner).run w = (w.links.size, { w with links := w.links.push { owner } }) := rfl

/-- Delivering a command appends it to its link's inbox. -/
theorem deliver_spec (l : LinkId) (c : Command) (w : World) :
    let w' := ((deliver l c).run w).2
    w'.registry = w.registry ∧ w'.tasks = w.tasks ∧ w'.links.size = w.links.size ∧
      ∀ l' < w.links.size, pendingOn w'.links l' =
        pendingOn w.links l' ++ if l = l' then c.handsOver.toList else [] := by
  unfold deliver
  simp only [run_bind, run_get]
  split
  · next link found =>
    simp only [run_bind, run_set]
    have inside : l < w.links.size := (Array.getElem?_eq_some_iff.1 found).1
    let w₁ := { w with links := w.links.set! l { link with inbox := link.inbox ++ [c] } }
    -- waking the receiving task touches neither the registry nor the links
    have after : ∀ x : Act Unit, Quiet x → (x.run w₁).2.registry = w.registry ∧
        (x.run w₁).2.tasks = w.tasks ∧ (x.run w₁).2.links.size = w.links.size ∧
        ∀ l' < w.links.size, pendingOn (x.run w₁).2.links l' =
          pendingOn w.links l' ++ if l = l' then c.handsOver.toList else [] := by
      intro x quiet
      obtain ⟨registry, links, tasks⟩ := quiet w₁
      refine ⟨registry, tasks, by rw [links]; simp [w₁], fun l' _ => ?_⟩
      rw [links]
      by_cases same : l = l'
      · subst same
        have old : pendingOn w.links l = link.inbox.filterMap Command.handsOver := by
          simp [pendingOn, found]
        rw [pendingOn_set inside, old, List.filterMap_append, if_pos rfl]
        rcases hands : c.handsOver with _ | x <;> simp [hands]
      · rw [pendingOn_of_ne same, if_neg same, List.append_nil]
    split
    · exact after _ (quiet_wake _)
    · exact after _ (quiet_pure _)
  · next found =>
    refine ⟨rfl, rfl, rfl, fun l' below => ?_⟩
    have beyond : w.links.size ≤ l := Array.getElem?_eq_none_iff.1 found
    have differ : l ≠ l' := Nat.ne_of_gt (Nat.lt_of_lt_of_le below beyond)
    rw [if_neg differ, List.append_nil]
    rfl

/-- Delivering an outbox: each link then holds what it held and what the outbox hands over
on it. -/
theorem deliverAll_spec (out : Outbox) (w : World) :
    let w' := ((out.forM fun e => deliver e.link e.command).run w).2
    w'.registry = w.registry ∧ w'.tasks = w.tasks ∧ w'.links.size = w.links.size ∧
      ∀ l < w.links.size, pendingOn w'.links l = pendingOn w.links l ++ RegistryOp.handedOn out l := by
  induction out generalizing w with
  | nil => exact ⟨rfl, rfl, rfl, fun _ _ => (List.append_nil _).symm⟩
  | cons e out ih =>
    obtain ⟨registry₁, tasks₁, size₁, pending₁⟩ := deliver_spec e.link e.command w
    obtain ⟨registry₂, tasks₂, size₂, pending₂⟩ := ih ((deliver e.link e.command).run w).2
    refine ⟨registry₂.trans registry₁, tasks₂.trans tasks₁, size₂.trans size₁, fun l inside => ?_⟩
    show pendingOn (((out.forM fun e => deliver e.link e.command).run
      ((deliver e.link e.command).run w).2).2.links) l = _
    rw [pending₂ l (size₁ ▸ inside), pending₁ l inside, List.append_assoc]
    congr 1
    simp only [RegistryOp.handedOn, List.filterMap_cons]
    by_cases same : e.link = l
    · simp only [same, if_true]
      rcases e.command.handsOver with _ | x <;> rfl
    · simp [same]

/-- A registry operation: the registry it leaves, and the commands it sends delivered. -/
theorem registry_spec (op : RegistryOp α) (w : World) :
    let x := op.runOn w.linkOpen (w.registry, [])
    let w' := (Act.registry op).run w
    w'.1 = x.1 ∧ w'.2.registry = x.2.1 ∧ w'.2.tasks = w.tasks ∧ w'.2.links.size = w.links.size ∧
      ∀ l < w.links.size, pendingOn w'.2.links l = pendingOn w.links l ++ RegistryOp.handedOn x.2.2 l :=
  deliverAll_spec (op.runOn w.linkOpen (w.registry, [])).2.2
    { w with registry := (op.runOn w.linkOpen (w.registry, [])).2.1 } |>.imp_left id |> fun h =>
    ⟨rfl, h⟩

/-- A dispatch draws its tie-break, then runs with it. -/
theorem dispatch_triple {P : World → Prop} {Q : Dispatch → World → Prop} (req : Request)
    (draw : Triple P drawTieBreak fun _ => P)
    (run : ∀ tie, Triple P (Act.registry (.dispatch req tie)) Q) : Triple P (Act.dispatch req) Q :=
  Triple.bind draw run

/-! ## Steps that write to no client -/

/-- A step that writes to no client: what a client reads stays as it was, or is cleared when the
client looks at it. -/
def Mute (a : Act α) : Prop := ∀ w : World, w.Unwritten (a.run w).2

theorem mute_bind {x : Act α} {f : α → Act β} (hx : Mute x) (hf : ∀ v, Mute (f v)) :
    Mute (x >>= f) :=
  fun w => (hx w).trans (hf _ _)

theorem mute_pure (v : α) : Mute (Pure.pure v : Act α) := fun w => .refl w

theorem mute_get : Mute (MonadState.get : Act World) := fun w => .refl w

/-- A change of the world that moves no connection and keeps the codec. -/
theorem mute_modify {f : World → World} (h : ∀ w, (f w).conns = w.conns ∧ (f w).zlib = w.zlib) :
    Mute (modify f : Act PUnit) :=
  fun w => .of_conns (h w).1 (h w).2

theorem mute_forM {g : γ → Act PUnit} (hg : ∀ x, Mute (g x)) : ∀ xs : List γ, Mute (xs.forM g)
  | [] => mute_pure _
  | x :: xs => mute_bind (hg x) fun _ => mute_forM hg xs

theorem mute_now : Mute now := mute_bind mute_get fun _ => mute_pure _

theorem mute_wake (t : TaskId) : Mute (wake t) :=
  mute_modify fun w => by split <;> exact ⟨rfl, rfl⟩

theorem mute_setTask (t : TaskId) (task : Task) : Mute (setTask t task) :=
  mute_modify fun _ => ⟨rfl, rfl⟩

theorem mute_modifyConn (c : ConnId) {f : Conn → Conn} (hf : ∀ conn, Conn.Unwritten conn (f conn)) :
    Mute (modifyConn c f) :=
  fun w => World.Unwritten.modify w c hf

theorem mute_onConn (c : ConnId) {f : Conn → α × Conn} (d : α)
    (hf : ∀ conn, Conn.Unwritten conn (f conn).2) : Mute (onConn c f d) := fun w => by
  unfold onConn
  simp only [run_bind, run_get]
  split
  · next conn found =>
    exact World.Unwritten.set w c fun conn' found' => by
      rw [found] at found'
      cases found'
      exact hf conn
  · exact .refl w

theorem mute_store (call : StoreCall) : Mute (Act.store call) := fun _ => .of_conns rfl rfl

theorem mute_drawTieBreak : Mute drawTieBreak := fun _ => .of_conns rfl rfl

theorem mute_toss : Mute toss := fun _ => .of_conns rfl rfl

theorem mute_openLink (owner : Option TaskId) : Mute (openLink owner) := fun _ => .of_conns rfl rfl

theorem mute_takeCommand (l : LinkId) : Mute (takeCommand l) := fun w => by
  rw [takeCommand_run]
  split
  · split
    · exact .of_conns rfl rfl
    · exact .refl w
  · exact .refl w

theorem mute_closeLink (l : LinkId) : Mute (closeLink l) := fun w => by
  rw [closeLink_run]
  split
  · exact .of_conns rfl rfl
  · exact .refl w

theorem mute_deliver (l : LinkId) (c : Command) : Mute (deliver l c) := fun w => by
  unfold deliver
  simp only [run_bind, run_get]
  split
  · next link _ =>
    simp only [run_bind, run_set]
    have stored : w.Unwritten
        { w with links := w.links.set! l { link with inbox := link.inbox ++ [c] } } :=
      .of_conns rfl rfl
    split
    · exact stored.trans (mute_wake _ _)
    · exact stored
  · exact .refl w

theorem mute_registry (op : RegistryOp α) : Mute (Act.registry op) := fun w => by
  have stored : w.Unwritten { w with registry := (op.runOn w.linkOpen (w.registry, [])).2.1 } :=
    .of_conns rfl rfl
  exact stored.trans (mute_forM (fun (e : Sent) => mute_deliver e.link e.command) _ _)

theorem mute_dispatch (req : Request) : Mute (Act.dispatch req) :=
  mute_bind mute_drawTieBreak fun _ => mute_registry _

end Act

namespace JudgeTask

open Act

theorem quiet_persist (id : SubmissionId) (u : SubmissionUpdate) : Quiet (persist id u) :=
  quiet_bind (quiet_store _) fun _ => quiet_pure _

theorem quiet_pull (jt : JudgeTask) : Quiet (pull jt) :=
  quiet_bind (quiet_onConn _ _ _) fun _ => quiet_pure _

theorem calm_choose (ready : List Branch) : Calm (choose ready) :=
  calm_bind calm_toss fun _ => calm_pure _

theorem quiet_readPacket (jt : JudgeTask) : Quiet (readPacket jt) := by
  unfold readPacket
  refine quiet_bind (quiet_pull jt) fun x => ?_
  dsimp only
  split <;> exact quiet_pure _

theorem mute_persist (id : SubmissionId) (u : SubmissionUpdate) : Mute (persist id u) :=
  mute_bind (mute_store _) fun _ => mute_pure _

theorem mute_pull (jt : JudgeTask) : Mute (pull jt) :=
  mute_bind (mute_onConn _ _ Conn.unwritten_serverRead) fun _ => mute_pure _

theorem mute_choose (ready : List Branch) : Mute (choose ready) :=
  mute_bind mute_toss fun _ => mute_pure _

theorem mute_readPacket (jt : JudgeTask) : Mute (readPacket jt) := by
  unfold readPacket
  refine mute_bind (mute_pull jt) fun x => ?_
  dsimp only
  split <;> exact mute_pure _

/-- The task pulling bytes serves the connection it served. -/
theorem pull_conn (jt : JudgeTask) (w : World) : ((pull jt).run w).1.1.conn = jt.conn := by
  unfold pull
  simp only [run_bind]
  rfl

theorem readPacket_conn (jt : JudgeTask) (w : World) : ((readPacket jt).run w).1.2.conn = jt.conn := by
  unfold readPacket
  simp only [run_bind]
  have pulled := pull_conn jt w
  revert pulled
  generalize (pull jt).run w = x
  rcases x with ⟨⟨jt', ended⟩, w'⟩
  intro pulled
  dsimp only at pulled ⊢
  split <;> exact pulled

end JudgeTask

end JudgeRelay
