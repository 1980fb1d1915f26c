import JudgeRelay.Proofs.Wire.Incremental
import JudgeRelay.Proofs.Wire.BodyLimit
import JudgeRelay.Proofs.Deflate.Stored
import JudgeRelay.Proofs.Relay.Running

/-!
# What a client reads is what the relay wrote

The relay writes each packet to a connection as one whole frame, and the client's decoder takes
frames off what it is given. Between two writes the decoder is therefore at a frame boundary,
with nothing held, or stuck on a frame that announces more than its limit, which it refuses for
good (`FrameBuffer.Ready`). From such a decoder, one more frame gives the client the packet the
relay sent, or one failure, and leaves it ready again (`FrameBuffer.drain_push_frame`).

Every reachable world is wired: the relay's codec is the one the decoders use, and every
connection's decoder is ready (`World.Reachable.wired`). So what any client finds on its
connection, past what it had, is the relay's packets to it, in the order sent, or failures
(`Act.sendPacket_spec`); steps that write to no client add nothing.
-/

namespace JudgeRelay

namespace FrameBuffer

/-- A client's decoder between two of the relay's writes: the relay's limit and codec, and
either nothing held or a frame held that announces more than the limit. -/
def Ready (b : FrameBuffer) : Prop :=
  b.maxFrame = Frame.maxFrameSize ∧ b.zlib = Deflate.zlib ∧
    (b.bytes.size = 0 ∨ 4 ≤ b.bytes.size ∧ Frame.maxFrameSize < Frame.announced b.bytes)

/-- What draining gives after one frame: the frame's payload, or one failure. -/
def Gives (p : ByteArray) (r : List ByteArray × Option WireError) : Prop :=
  r = ([p], none) ∨ ∃ e, r = ([], some e)

theorem ready_default : FrameBuffer.Ready {} := ⟨rfl, rfl, .inl rfl⟩

theorem consume_zlib (b : FrameBuffer) (n : Nat) : (b.consume n).zlib = b.zlib := rfl

/-- A frame announced over the limit is refused, and the decoder keeps every byte. -/
theorem drain_refuses {b : FrameBuffer} (limit : b.maxFrame = Frame.maxFrameSize)
    (codec : b.zlib = Deflate.zlib) (long : 4 ≤ b.bytes.size)
    (big : Frame.maxFrameSize < Frame.announced b.bytes) (p : ByteArray) :
    Gives p (b.drain.1, b.drain.2.1) ∧ b.drain.2.2.Ready := by
  rw [drain_of_error (next_refuses long (limit ▸ big))]
  exact ⟨.inr ⟨_, rfl⟩, limit, codec, .inr ⟨long, big⟩⟩

/-- The bytes of the frame `encode` gives. -/
theorem encode_eq_framed {z : Deflate.Zlib} {p frame : ByteArray} (encoded : Frame.encode z p = .ok frame) :
    frame = Frame.framed z p ∧ (z.compress p).size ≤ Frame.maxBody := by
  unfold Frame.encode at encoded
  by_cases small : (z.compress p).size ≤ Frame.maxBody
  · rw [if_neg (Nat.not_lt.2 small)] at encoded
    exact ⟨(Except.ok.inj encoded).symm, small⟩
  · rw [if_pos (Nat.lt_of_not_le small)] at encoded
    cases encoded

/-- One whole frame, alone in the decoder: the body is decoded, to the payload or to a failure,
and nothing is left behind. -/
theorem drain_framed {b : FrameBuffer} (limit : b.maxFrame = Frame.maxFrameSize)
    (codec : b.zlib = Deflate.zlib) {p : ByteArray} (small : (Deflate.zlib.compress p).size ≤ Frame.maxBody)
    (alone : b.bytes = Frame.framed Deflate.zlib p) :
    Gives p (b.drain.1, b.drain.2.1) ∧ b.drain.2.2.Ready := by
  have length : Frame.announced b.bytes = (Deflate.zlib.compress p).size :=
    Frame.announced_of_agree (by rw [alone])
      (Nat.lt_of_le_of_lt small (by decide : Frame.maxBody < 2 ^ 32))
  have size : b.bytes.size = 4 + (Deflate.zlib.compress p).size := by
    rw [alone, Frame.framed_size]
  by_cases big : Frame.maxFrameSize < Frame.announced b.bytes
  · exact drain_refuses limit codec (by omega) big p
  -- the frame is taken whole, and its body decoded with the relay's codec and limit
  have taken := next_takes (b := b) (by omega) (by omega)
  have body : b.bytes.extract 4 (4 + Frame.announced b.bytes) = Deflate.zlib.compress p := by
    rw [length, alone, Frame.framed]
    exact ByteArray.extract_append_eq_right rfl rfl
  have capped : Frame.readCap Frame.maxFrameSize = Frame.maxFrameSize + 1 :=
    Frame.readCap_of_lt (by unfold Frame.maxFrameSize; omega)
  have empty : (b.consume (4 + Frame.announced b.bytes)).bytes.size = 0 := by
    simp only [consume, ByteArray.size_extract]
    omega
  have ready : (b.consume (4 + Frame.announced b.bytes)).Ready :=
    ⟨(consume_removes b _).2.trans limit, (consume_zlib b _).trans codec, .inl empty⟩
  rw [body, codec, limit, Frame.decodeBody_compress_any capped Deflate.zlib_inverse] at taken
  split at taken
  · rw [drain_of_take taken, drain_of_wait (next_short (by rw [empty]; decide))]
    exact ⟨.inl rfl, ready⟩
  · rw [drain_of_error taken]
    exact ⟨.inr ⟨_, rfl⟩, ready⟩

/-- From a ready decoder, one frame the relay encodes gives the client its payload, or one
failure, and leaves the decoder ready. -/
theorem drain_push_frame {b : FrameBuffer} (ready : b.Ready) {p frame : ByteArray}
    (encoded : Frame.encode Deflate.zlib p = .ok frame) :
    Gives p ((b.push frame).drain.1, (b.push frame).drain.2.1) ∧ (b.push frame).drain.2.2.Ready := by
  obtain ⟨limit, codec, clean | ⟨long, big⟩⟩ := ready
  · obtain ⟨rfl, small⟩ := encode_eq_framed encoded
    refine drain_framed (b := b.push _) limit codec small ?_
    rw [push, eq_empty_of_size clean, ByteArray.empty_append]
  · -- the frame held first is still refused: the new bytes go behind it
    have long' : 4 ≤ (b.bytes ++ frame).size := by
      rw [ByteArray.size_append]
      omega
    have big' : Frame.maxFrameSize < Frame.announced (b.bytes ++ frame) := by
      rw [Frame.announced_append _ long]
      exact big
    exact drain_refuses (b := b.push frame) limit codec long' big' p

end FrameBuffer

/-- What a client may find after the relay sent it the packet `p`: the packet, or a frame it
could not read. -/
def Received.From (p : ByteArray) : Received → Prop
  | .packet q => q = p
  | .failure _ => True

/-- One frame written to a ready decoder adds the packet, or one failure, to what the client
received, and leaves the decoder ready; a client that no longer reads gets nothing. -/
theorem Conn.serverWrite_frame (c : Conn) (ready : c.decoder.Ready) {p frame : ByteArray}
    (encoded : Frame.encode Deflate.zlib p = .ok frame) :
    (c.serverWrite frame).2.decoder.Ready ∧
      ∃ got, (c.serverWrite frame).2.received = c.received ++ got ∧ ∀ i ∈ got, i.From p := by
  unfold Conn.serverWrite
  split
  · exact ⟨ready, [], (List.append_nil _).symm, by simp⟩
  · obtain ⟨gives, ready'⟩ := FrameBuffer.drain_push_frame ready encoded
    generalize (c.decoder.push frame).drain = r at gives ready' ⊢
    obtain ⟨frames, err, decoder⟩ := r
    refine ⟨ready', _, rfl, ?_⟩
    rcases gives with same | ⟨e, same⟩ <;> cases same <;> simp [Received.From]

namespace World

/-- What the client of connection `c` has read and not yet taken. -/
def received (w : World) (c : ConnId) : List Received := ((w.conns[c]?).map Conn.received).getD []

/-- The relay and its clients agree on frames: the relay compresses with the codec the
decoders use, and every client's decoder is ready. -/
def Wired (w : World) : Prop :=
  w.zlib = Deflate.zlib ∧ ∀ (c : ConnId) conn, w.conns[c]? = some conn → conn.decoder.Ready

variable {w w' : World}

/-- A connection after steps that wrote to no client was there before them. -/
theorem Unwritten.conn (h : w.Unwritten w') {c : ConnId} {conn' : Conn}
    (found : w'.conns[c]? = some conn') : ∃ conn, w.conns[c]? = some conn ∧ conn.Unwritten conn' := by
  have kept := h.2 c
  rw [found] at kept
  generalize old : w.conns[c]? = before at kept
  cases kept with
  | some same => exact ⟨_, rfl, same⟩

theorem Unwritten.wired (h : w.Unwritten w') (wired : w.Wired) : w'.Wired := by
  refine ⟨h.1.trans wired.1, fun c conn' found => ?_⟩
  obtain ⟨conn, old, same, -⟩ := h.conn found
  rw [same]
  exact wired.2 c conn old

/-- Steps that write to no client leave what it read as it was, or take it all. -/
theorem Unwritten.received (h : w.Unwritten w') (c : ConnId) :
    w'.received c = w.received c ∨ w'.received c = [] := by
  unfold World.received
  rcases found : w'.conns[c]? with _ | conn'
  · exact .inr rfl
  · obtain ⟨conn, old, -, kept⟩ := h.conn found
    rw [old]
    exact kept

end World

/-- Storing at a place inside an array. -/
theorem getElem?_set!_of_lt {α : Type} {xs : Array α} {i : Nat} (inside : i < xs.size) (a : α)
    (j : Nat) : (xs.set! i a)[j]? = if i = j then some a else xs[j]? := by
  simp [Array.set!_eq_setIfInBounds, Array.getElem?_setIfInBounds, inside]

namespace Act

open World

variable {α : Type}

theorem onConn_run (c : ConnId) (f : Conn → α × Conn) (d : α) (w : World) :
    (onConn c f d).run w =
      match w.conns[c]? with
      | some conn => ((f conn).1, { w with conns := w.conns.set! c (f conn).2 })
      | none => (d, w) := by
  unfold onConn
  simp only [run_bind, run_get]
  rcases w.conns[c]? with _ | conn <;> rfl

/-- Sending a packet on a wired world: the client of `c` finds the packet after what it had,
or a failure, or nothing when it no longer reads; no other client finds anything new, and the
world stays wired. -/
theorem sendPacket_spec (c : ConnId) (packet : Json.Value) {w : World} (wired : w.Wired) :
    let w' := ((sendPacket c packet).run w).2
    w'.Wired ∧ ∀ c', ∃ got, w'.received c' = w.received c' ++ got ∧
      (∀ i ∈ got, i.From packet.toBytes) ∧ (c' ≠ c → got = []) := by
  have unchanged : ∀ c', ∃ got, w.received c' = w.received c' ++ got ∧
      (∀ i ∈ got, i.From packet.toBytes) ∧ (c' ≠ c → got = []) :=
    fun _ => ⟨[], (List.append_nil _).symm, by simp, fun _ => rfl⟩
  unfold sendPacket
  simp only [run_bind, run_get, wired.1]
  split
  · next frame encoded =>
    rw [onConn_run]
    split
    · next conn found =>
      obtain ⟨ready, got, grew, items⟩ := conn.serverWrite_frame (wired.2 c conn found) encoded
      have inside := (Array.getElem?_eq_some_iff.1 found).1
      refine ⟨⟨wired.1, fun c' conn' found' => ?_⟩, fun c' => ?_⟩
      · rw [getElem?_set!_of_lt inside] at found'
        split at found'
        · cases found'
          exact ready
        · exact wired.2 c' conn' found'
      · by_cases same : c' = c
        · subst same
          refine ⟨got, ?_, items, fun differ => absurd rfl differ⟩
          rw [received, received, getElem?_set!_of_lt inside, if_pos rfl, found]
          exact grew
        · refine ⟨[], ?_, by simp, fun _ => rfl⟩
          rw [received, received, getElem?_set!_of_lt inside, if_neg (Ne.symm same), List.append_nil]
    · exact ⟨wired, unchanged⟩
  · exact ⟨wired, unchanged⟩

theorem wired_sendPacket (c : ConnId) (packet : Json.Value) :
    Triple Wired (sendPacket c packet) fun _ => Wired :=
  fun _ wired => (sendPacket_spec c packet wired).1

theorem Mute.wired {a : Act α} (h : Mute a) : Triple Wired a fun _ => Wired :=
  fun w wired => (h w).wired wired

/-- After a step that writes to no client, from a wired world. -/
theorem Mute.wired_after {a : Act α} (h : Mute a) {x : α} {w : World}
    (ran : ∃ w₀, Wired w₀ ∧ a.run w₀ = (x, w)) : w.Wired := by
  obtain ⟨w₀, wired, ran⟩ := ran
  have after := (h w₀).wired wired
  rwa [ran] at after

end Act

/-! ## Every reachable world is wired

Only a packet the relay sends writes to a client, and it writes one whole frame; a new
connection's decoder is empty. The walks of `Relay.Stages` carry that through every task. -/

namespace JudgeTask

open Act World

variable {t : TaskId}

theorem mute_onGradingEvent (s : Session) (id : SubmissionId) (p : JudgePacket) :
    Mute (onGradingEvent s id p) := by
  unfold onGradingEvent
  dsimp only
  split
  · exact mute_pure _
  · refine mute_bind (mute_persist _ _) fun _ => ?_
    split
    · exact mute_bind (mute_registry _) fun _ => mute_pure _
    · exact mute_pure _

/-- A packet from the judge is answered by no write. -/
theorem mute_onPacket (s : Session) (payload : ByteArray) : Mute (onPacket s payload) := fun w₀ =>
  onPacket_triple (B := fun _ w => w₀.Unwritten w) payload
    (fun _ _ _ w h => h.trans (mute_onGradingEvent _ _ _ w))
    (fun _ _ w h => h.trans (mute_registry _ w)) (fun _ _ w h => h.trans (mute_store _ w))
    (fun _ w h => h.trans (mute_registry _ w)) (fun _ w h => h.trans (mute_registry _ w)) w₀ (.refl w₀)

theorem release_wired (jt : JudgeTask) : Triple Wired (release t jt) fun _ => Wired :=
  (mute_bind (mute_modifyConn _ Conn.unwritten_serverDrop) fun _ => mute_setTask _ _).wired

theorem onCommand_wired (jt : JudgeTask) (s : Session) (cmd : Command) :
    Triple Wired (onCommand jt s cmd) fun _ => Wired :=
  onCommand_triple (B := fun _ => Wired) jt s cmd
    (fun q _ => submit_triple (B := fun _ => Wired) jt s q (mute_store _).wired (fun _ => wired_sendPacket _ _) mute_now.wired
      (fun _ => (mute_persist _ _).wired) (fun _ _ h => h) fun _ h => h)
    (fun _ => wired_sendPacket _ _) (wired_sendPacket _ _) fun _ _ h => h

theorem close_wired (jt : JudgeTask) (s : Session) : Triple Wired (close t jt s) fun _ => Wired :=
  close_triple (L := fun _ => Wired) jt s
    (fun _ => (mute_registry _).wired.conseq (fun _ ran => (mute_closeLink _).wired_after ran)
      fun _ _ h => h)
    (fun _ _ _ => (mute_persist _ _).wired) (fun _ _ _ => (mute_dispatch _).wired)
    (fun _ => (mute_store _).wired.conseq (fun _ h => h.1) fun _ _ h => h) (fun _ _ h _ => h)
    (mute_modifyConn _ Conn.unwritten_serverShutdown).wired (release_wired jt)

/-- Serving writes only the packets it sends. -/
theorem serve_steps_wired (t : TaskId) (c : ConnId) :
    ServeSteps t c (fun _ => Wired) (fun _ _ => Wired) Wired where
  pull jt _ := (mute_pull jt).wired
  clock _ := mute_now.wired
  choose _ ready := (mute_choose ready).wired
  ping _ _ := wired_sendPacket _ _
  stamp _ _ _ h := h
  reschedule _ _ _ h := h
  packet s payload := (mute_onPacket s payload).wired
  take _ := (mute_takeCommand _).wired.conseq (fun _ h => h) fun o _ h => by cases o <;> exact h
  command jt s cmd _ := onCommand_wired jt s cmd
  close jt s _ := close_wired jt s
  park _ _ _ := (mute_setTask _ _).wired
  wake := (mute_wake t).wired

theorem welcome_wired (jt : JudgeTask) (name key : String) (problems executors : List String)
    (tier : Option Nat) (fuel : Nat) :
    Triple Wired (welcome t jt name key problems executors tier fuel) fun _ => Wired :=
  welcome_triple (J := fun _ _ => Wired) (B := fun _ => Wired) jt name key problems executors tier
    fuel (release_wired jt)
    (fun _ _ => (mute_registry _).wired.conseq (fun _ ran => (mute_openLink _).wired_after ran)
      fun _ _ h => h)
    (fun _ _ => mute_now.wired) (fun _ _ _ _ => (mute_persist _ _).wired)
    (fun _ _ _ _ _ => (mute_store _).wired) (fun _ => wired_sendPacket _ _)
    (fun s => serve_triple (serve_steps_wired t jt.conn) fuel jt s rfl) (close_wired jt)

theorem awaitHandshake_wired (jt : JudgeTask) (deadline fuel : Nat) :
    Triple Wired (awaitHandshake t jt deadline fuel) fun _ => Wired :=
  awaitHandshake_triple jt deadline fuel (fun jt => (mute_readPacket jt).wired) mute_now.wired
    (fun jt _ => release_wired jt) (fun _ _ _ => (mute_setTask _ _).wired)
    fun jt name key problems executors tier _ => welcome_wired jt name key problems executors tier fuel

theorem poll_wired (jt : JudgeTask) : Triple Wired (poll t jt) fun _ => Wired :=
  JudgeTask.poll_triple (B := fun _ => Wired) (fun _ _ h => h) (fun _ _ _ h => h) (fun _ h => h)
    mute_now.wired
    (fun jt d fuel _ => awaitProxyHeader_triple jt d fuel (fun jt => (mute_pull jt).wired) mute_now.wired
      (fun jt _ => release_wired jt) (fun _ _ _ => (mute_setTask _ _).wired)
      fun jt d _ => awaitHandshake_wired jt d fuel)
    (fun jt d fuel _ => awaitHandshake_wired jt d fuel)
    fun s fuel => serve_triple (serve_steps_wired t jt.conn) fuel jt s rfl

end JudgeTask

namespace ControlTask

open Act World

variable {t : TaskId}

theorem process_wired (req : ControlRequest) : Triple Wired (process req) fun _ => Wired :=
  process_triple req (fun _ _ => (mute_dispatch _).wired) (fun _ => (mute_registry _).wired)
    (fun _ _ => (mute_registry _).wired) (fun _ _ => (mute_registry _).wired)
    fun _ _ => (mute_bind (mute_store _) fun _ => mute_pure _).wired

theorem poll_wired (ct : ControlTask) : Triple Wired (poll t ct) fun _ => Wired :=
  poll_triple (fun _ h => h) (fun _ h => h) mute_now.wired fun _ _ =>
    await_triple (fun _ _ mute => mute.wired) process_wired (fun _ _ => wired_sendPacket _ _)
      (fun _ => (mute_bind (mute_modifyConn _ Conn.unwritten_serverDrop) fun _ => mute_setTask _ _).wired)
      fun _ => (mute_setTask _ _).wired

end ControlTask

namespace World

open Act

/-- A new connection comes with an empty decoder. -/
theorem Wired.push {w w' : World} (wired : w.Wired) (label : String)
    (conns : w'.conns = w.conns.push { label }) (zlib : w'.zlib = w.zlib) : w'.Wired := by
  refine ⟨zlib.trans wired.1, fun c conn found => ?_⟩
  rw [conns, Array.getElem?_push] at found
  split at found
  · cases found
    exact FrameBuffer.ready_default
  · exact wired.2 c conn found

/-- ... and with nothing read. -/
theorem received_push {w w' : World} (label : String) (conns : w'.conns = w.conns.push { label })
    (c : ConnId) : w'.received c = w.received c ∨ w'.received c = [] := by
  unfold World.received
  rw [conns, Array.getElem?_push]
  split
  · exact .inr rfl
  · exact .inl rfl

theorem wired_openConn (label : String) (task : ConnId → Task) :
    Triple Wired (openConn label task) fun _ => Wired := by
  unfold openConn
  refine Triple.bind Triple.get_self fun w₀ => ?_
  refine Triple.bind (?_ : Triple _ (set _) fun _ => Wired) fun _ =>
    Triple.bind (mute_wake _).wired fun _ => Triple.pure _ fun _ h => h
  rintro w ⟨rfl, wired⟩
  exact wired.push label rfl rfl

theorem Event.act_wired (e : Event) : Triple Wired e.act fun _ => Wired :=
  e.act_triple (fun _ _ mute => mute.wired) (fun _ _ _ _ => wired_openConn _ _)
    (fun _ _ => wired_openConn _ _) (fun req _ => ControlTask.process_wired req)
    (fun _ => (mute_registry _).wired) (fun _ _ => (mute_store _).wired)
    (pollTask_keeps (fun _ _ jt _ => (JudgeTask.poll_wired jt).conseq (fun _ h => h.2) fun _ _ h => h)
      fun _ _ ct _ => (ControlTask.poll_wired ct).conseq (fun _ h => h.2) fun _ _ h => h)

/-- In every reachable world the relay and its clients agree on frames. -/
theorem Reachable.wired {w : World} (reach : w.Reachable) : w.Wired := by
  induction reach with
  | start auth store => exact ⟨rfl, fun c conn found => by simp at found⟩
  | step _ e wired => exact Event.act_wired e _ wired

end World

end JudgeRelay
