import Daliserver.Net.Requests

/-! The waiting flag of a connection, and the runs in which it means what it should mean. -/

namespace Daliserver

open Machine

/-- The flag of every open connection says whether a request of it is pending. -/
def WaitingExact (world : World) : Prop :=
  ∀ conn connection, world.2.heap conn = some connection →
    (connection.waiting = true ↔ some conn ∈ owners world.1)

/-- The meaning of the flag, as a fact about an account. -/
def Honest (account : Account) (owed : Nat) : Prop := account.waiting = true ↔ 0 < owed

/-- The meaning of the flag is a fact about every account on the desk. -/
theorem waitingExact_iff (world : World) : WaitingExact world ↔ (deskOf world).Each Honest := by
  -- Being owed something is having a positive count.
  constructor
  · intro waiting conn account found
    obtain ⟨connection, there, rfl⟩ := Option.map_eq_some_iff.mp found
    exact (waiting conn connection there).trans List.count_pos_iff.symm
  · intro each conn connection found
    have there : (deskOf world).accounts conn = _ := congrArg (Option.map _) found
    have honest := each conn _ there
    exact Iff.trans honest List.count_pos_iff

/-- A whole frame is a request that is taken or answered at once, or something is owed anyway. -/
def ReadsKeep (world : World) (input : Input) (conn : ConnPtr) : Prop :=
  ∀ buffer, input.buffer = some buffer → defaultNetFramesize ≤ buffer.length →
    -- The raised flag is right if the request is taken, or answered at once, or another is pending.
    isRequest buffer = true ∧ (world.2.server.arg = none ∨
      world.1.queue.length < world.1.queueSize ∧ input.memory = true) ∨
    some conn ∈ owners world.1

/-- A completion that ends a transaction ends the only one of its connection, or it fails. -/
def ReportsKeep (world : World) (input : Input) : Prop :=
  ∀ completion transfer transaction conn error frame response status,
    input.completion = some completion →
    world.1.context.inflight.find? (·.id = completion.transfer) = some transfer →
    transferReport world.1 transfer completion = .finished error frame response status →
    world.1.transaction = some transaction → transaction.arg = some conn →
    -- A reply that cannot be written removes the connection with its flag.
    world.2.writable = true → some conn ∉ world.1.queue.map (·.arg)

/-- A step after which the flags still mean what they should mean. -/
def KeepsWaiting : World → SystemEvent → Prop := RowMeets ReadsKeep ReportsKeep

/-- A read keeps the flag honest exactly if its frame will be answered, or another one will. -/
theorem Desk.Each.read_honest {world : World} (tidy : Tidy world)
    (honest : (deskOf world).Each Honest) (input : Input) {conn : ConnPtr}
    (member : conn ∈ world.2.server.connections) :
    ((deskOf world).read world input conn).Each Honest ↔ ReadsKeep world input conn := by
  obtain ⟨account, found⟩ := tidy.account member
  have owed : 0 < (deskOf world).owed conn ↔ some conn ∈ owners world.1 := List.count_pos_iff
  -- A frame that leads nowhere still raises the flag.
  have raised : ∀ buffer, ((deskOf world).heard conn buffer).Each Honest ↔
      some conn ∈ owners world.1 := by
    intro buffer
    rw [honest.heard_iff found, ← owed]
    simp [Honest, Account.asked]
  unfold Desk.read ReadsKeep
  cases input.buffer with
  | none => exact iff_of_true (honest.close conn) fun buffer named => by cases named
  | some buffer =>
    simp only [Option.some.injEq, forall_eq']
    by_cases short : buffer.length < defaultNetFramesize
    · rw [if_pos short]
      exact iff_of_true (honest.close conn) fun whole => absurd short (Nat.not_lt.mpr whole)
    · simp only [if_neg short, Nat.le_of_not_lt short, true_imp_iff]
      by_cases request : isRequest buffer = true
      · simp only [request, if_true, true_and]
        by_cases dry : world.2.server.arg = none
        · simp only [dry, if_true, true_or, iff_true]
          split
          · -- Without a device nothing is ever pending.
            rw [honest.echoed_iff found]
            have nothing : (deskOf world).owed conn = 0 := by
              simp [deskOf, tidy.bound.dry dry]
            simp [Honest, Account.asked, Account.told, nothing]
          · exact honest.close conn
        · simp only [dry, if_false, false_or]
          by_cases room : world.1.queue.length < world.1.queueSize ∧ input.memory = true
          · rw [if_pos room]
            refine iff_of_true ?_ (.inl room)
            rw [honest.taken_iff found]
            simp [Honest, Account.asked]
          · rw [if_neg room, raised]
            exact ⟨.inr, fun kept => kept.resolve_left room⟩
      · simp only [request, Bool.false_eq_true, if_false, false_and, false_or]
        exact raised buffer

/-- A broadcast writes to connections whose flag is down, so it changes no flag. -/
theorem broadcastFrom_honest {buffer : Bytes} (nonempty : buffer ≠ []) (nodes : List ConnPtr)
    {world : World} (tidy : Tidy world)
    (listed : ∀ conn ∈ nodes, conn ∈ world.2.server.connections)
    (honest : (deskOf world).Each Honest) :
    (deskOf (broadcastFrom buffer nodes world)).Each Honest := by
  induction nodes generalizing world with
  | nil => exact honest
  | cons conn rest ih =>
    have member := listed conn (List.mem_cons_self ..)
    obtain ⟨connection, found⟩ := tidy.found member
    have later : ∀ other ∈ rest, other ∈ world.2.server.connections :=
      fun other node => listed other (List.mem_cons_of_mem _ node)
    simp only [broadcastFrom, found]
    cases waits : connection.waiting with
    | true =>
      simp only [if_true, member]
      exact ih tidy later honest
    | false =>
      simp only [Bool.false_eq_true, if_false]
      -- The flag that the reply clears is down already.
      have replied : (deskOf (connectionReply conn buffer world)).Each Honest := by
        rw [deskOf_reply tidy member nonempty]
        split
        · have there : (deskOf world).accounts conn = _ := congrArg (Option.map _) found
          rw [honest.answered_iff there]
          have before := honest conn _ there
          simpa [Honest, Account.told, waits] using before
        · exact honest.close conn
      by_cases kept : conn ∈ (connectionReply conn buffer world).2.server.connections
      · simp only [kept, if_true]
        obtain ⟨_, same⟩ := connectionReply_keeps nonempty tidy.registered.linked member kept
        exact ih (tidy.reply member nonempty) (by rwa [same]) replied
      · simp only [kept, if_false]
        rw [deskOf_record]
        exact replied

/-- A message from the bus changes no flag. -/
theorem outband_honest {world : World} (tidy : Tidy world) (honest : (deskOf world).Each Honest)
    (error : UsbDaliError) (frame : Option DaliFrame) (arg : Option ServerPtr) :
    (deskOf (daliOutbandHandler serverBroadcast error frame arg world)).Each Honest := by
  -- Only the walk over the connections writes any flag.
  unfold daliOutbandHandler
  split
  · split
    · split
      · rw [deskOf_record]
        exact honest
      · unfold serverBroadcast
        rw [if_neg (List.cons_ne_nil _ _)]
        exact broadcastFrom_honest (List.cons_ne_nil _ _) _ tidy (fun _ member => member) honest
    · exact honest
  · exact honest

/-- A reply to a pending request keeps the flag honest exactly if it is the last one owed. -/
theorem finish_honest {world : World} (tidy : Tidy world) (honest : (deskOf world).Each Honest)
    (error : UsbDaliError) (response : Nat) :
    ((deskOf world).finish world error response).Each Honest ↔
      ∀ conn, world.1.transaction.bind (·.arg) = some conn → world.2.writable = true →
        some conn ∉ world.1.queue.map (·.arg) := by
  unfold Desk.finish
  cases own : world.1.transaction.bind (·.arg) with
  | none => exact iff_of_true honest fun _ named => by cases named
  | some conn =>
    obtain ⟨transaction, active, arg⟩ := Option.bind_eq_some_iff.mp own
    have owed : owners world.1 = some conn :: world.1.queue.map (·.arg) := by
      simp [owners, pendingRequests, active, arg]
    have member := tidy.bound.args conn (owed ▸ List.mem_cons_self ..)
    obtain ⟨account, found⟩ := tidy.account member
    simp only [Option.some.injEq, forall_eq']
    by_cases taken : world.2.writable = true
    · rw [if_pos taken, honest.settled_iff found]
      -- One of the requests that are owed is the active one.
      have rest : (deskOf world).owed conn - 1 =
          (world.1.queue.map (·.arg)).count (some conn) := by
        simp [deskOf, owed]
      simp only [Honest, Account.told, rest, Bool.false_eq_true, false_iff, taken, true_imp_iff]
      rw [List.count_pos_iff]
    · rw [if_neg taken]
      exact iff_of_true (honest.close conn) fun written => absurd written taken

/-- The flags survive a step exactly if it keeps them. -/
theorem step_waitingExact_iff {world : World} (sound : Sound world)
    (waiting : WaitingExact world) (event : SystemEvent) :
    WaitingExact (systemStep serverBroadcaster world event) ↔ KeepsWaiting world event := by
  -- Reads and reports are judged by their own conditions; every other row is harmless.
  rw [waitingExact_iff] at waiting ⊢
  refine step_each_iff (by simp [Honest]) ?_ ?_ (fun _ _ _ _ => Iff.rfl) (fun _ _ _ => Iff.rfl)
    sound waiting event
  · exact fun world input conn sound honest member => honest.read_honest sound.tidy input member
  · intro world input sound honest
    rw [usbReady_each_iff serverBroadcaster sound honest input]
    constructor
    -- The report is honest, so the reported connection has nothing else pending.
    · intro reported completion transfer transaction conn error frame response status named held
        report
      have kept := reported completion transfer named held
      obtain ⟨tidy, service, alive⟩ := sound.retired transfer
      rw [report, deskOf_finished serverBroadcaster tidy service alive] at kept
      intro active arg
      exact (finish_honest tidy honest error response).mp kept conn
        (Option.bind_eq_some_iff.mpr ⟨transaction, active, arg⟩)
    · intro keeps completion transfer named held
      obtain ⟨tidy, service, alive⟩ := sound.retired transfer
      cases report : transferReport world.1 transfer completion with
      | silent => exact honest
      | broadcast error frame status =>
        obtain ⟨arg, noted, calm, same, _, handled⟩ :=
          carryOut_broadcast serverBroadcaster tidy service error frame status
        rw [handled]
        exact outband_honest calm (same ▸ honest) error frame arg
      | finished error frame response status =>
        rw [deskOf_finished serverBroadcaster tidy service alive]
        refine (finish_honest tidy honest error response).mpr fun conn own => ?_
        obtain ⟨transaction, active, arg⟩ := Option.bind_eq_some_iff.mp own
        exact keeps completion transfer transaction conn error frame response status named held
          report active arg

/-- A reply to one connection leaves another one alone, as long as that is not closed. -/
theorem connectionReply_other {world : World} (tidy : Tidy world) {conn other : ConnPtr}
    (member : other ∈ world.2.server.connections) {connection : Connection}
    (found : world.2.heap conn = some connection) (apart : conn ≠ other) {buffer : Bytes}
    (nonempty : buffer ≠ []) :
    (connectionReply other buffer world).2.heap conn = some connection ∧
      sentFrames connection.serial (connectionReply other buffer world).2.log =
        sentFrames connection.serial world.2.log := by
  -- Serials tell the two connections apart in the log.
  obtain ⟨value, there⟩ := tidy.found member
  have differ : ¬ value.serial = connection.serial := fun same =>
    apart (tidy.books.distinct other conn value connection there found same).symm
  have written : sentFrames connection.serial (world.2.answered other value buffer).log =
      sentFrames connection.serial world.2.log := by
    simp [Net.answered, differ]
  rw [connectionReply_eq there nonempty]
  split
  · exact ⟨by simp [onNet, Net.answered, Function.update_of_ne apart, found], written⟩
  · refine ⟨by simp [Net.without, Net.answered, Function.update_of_ne apart, found], ?_⟩
    refine Eq.trans ?_ written
    show sentFrames connection.serial ((world.2.answered other value buffer).log ++ _) = _
    simp

/-- A broadcast writes nothing to a connection that waits, or that it does not come to. -/
theorem broadcastFrom_passes {buffer : Bytes} (nonempty : buffer ≠ []) {nodes : List ConnPtr}
    {world : World} (tidy : Tidy world)
    (listed : ∀ other ∈ nodes, other ∈ world.2.server.connections) {conn : ConnPtr}
    {connection : Connection} (found : world.2.heap conn = some connection)
    (passed : connection.waiting = true ∨ conn ∉ nodes) :
    sentFrames connection.serial (broadcastFrom buffer nodes world).2.log =
      sentFrames connection.serial world.2.log := by
  induction nodes generalizing world with
  | nil => rfl
  | cons other rest ih =>
    have member := listed other (List.mem_cons_self ..)
    obtain ⟨value, there⟩ := tidy.found member
    have later : ∀ node ∈ rest, node ∈ world.2.server.connections :=
      fun node inside => listed node (List.mem_cons_of_mem _ inside)
    have passed' : connection.waiting = true ∨ conn ∉ rest :=
      passed.imp_right fun outside inside => outside (List.mem_cons_of_mem _ inside)
    simp only [broadcastFrom, there]
    cases waits : value.waiting with
    | true =>
      simp only [if_true, member]
      exact ih tidy later found passed'
    | false =>
      simp only [Bool.false_eq_true, if_false]
      -- Only connections that do not wait are written to, so this is another one.
      have apart : conn ≠ other := by
        rintro rfl
        rw [found, Option.some.injEq] at there
        subst there
        rcases passed with waiting | outside
        · rw [waits] at waiting
          cases waiting
        · exact outside (List.mem_cons_self ..)
      obtain ⟨found', unsent⟩ := connectionReply_other tidy member found apart nonempty
      by_cases kept : other ∈ (connectionReply other buffer world).2.server.connections
      · simp only [kept, if_true]
        obtain ⟨_, same⟩ := connectionReply_keeps nonempty tidy.registered.linked member kept
        rw [ih (tidy.reply member nonempty) (by rwa [same]) found' passed', unsent]
      · simp only [kept, if_false]
        simpa [onNet, Net.record] using unsent

/-- A broadcast whose writes all succeed reaches every connection that does not wait. -/
theorem broadcastFrom_reaches {buffer : Bytes} (nonempty : buffer ≠ []) {nodes : List ConnPtr}
    (distinct : nodes.Nodup) {world : World} (tidy : Tidy world)
    (listed : ∀ other ∈ nodes, other ∈ world.2.server.connections)
    (succeeds : ∀ turn, writeSucceeds defaultNetFramesize (world.2.writes turn) = true)
    {conn : ConnPtr} (node : conn ∈ nodes) {connection : Connection}
    (found : world.2.heap conn = some connection) (free : connection.waiting = false) :
    sentFrames connection.serial (broadcastFrom buffer nodes world).2.log =
      sentFrames connection.serial world.2.log ++ [buffer] := by
  induction nodes generalizing world with
  | nil => cases node
  | cons other rest ih =>
    have member := listed other (List.mem_cons_self ..)
    obtain ⟨value, there⟩ := tidy.found member
    have later : ∀ node ∈ rest, node ∈ world.2.server.connections :=
      fun node inside => listed node (List.mem_cons_of_mem _ inside)
    obtain ⟨outside, distinct'⟩ := List.nodup_cons.mp distinct
    have taken : world.2.writable = true := by
      rw [Net.writable, tidy.books.framesize]
      exact succeeds _
    have reply := connectionReply_eq there nonempty
    rw [if_pos taken] at reply
    have kept : other ∈ (connectionReply other buffer world).2.server.connections := by
      rw [reply]
      exact member
    have tidy' := tidy.reply member nonempty
    simp only [broadcastFrom, there]
    by_cases here : conn = other
    · -- The connection is written to now, and the rest of the walk does not come back to it.
      subst here
      rw [found, Option.some.injEq] at there
      subst there
      simp only [free, Bool.false_eq_true, if_false, kept, if_true]
      have listed' : ∀ node ∈ rest,
          node ∈ (connectionReply conn buffer world).2.server.connections := by
        rw [reply]
        exact later
      have found' : (connectionReply conn buffer world).2.heap conn =
          some { connection with waiting := false } := by
        rw [reply]
        exact Function.update_self ..
      rw [broadcastFrom_passes nonempty tidy' listed' found' (.inr outside), reply]
      simp [onNet, Net.answered]
    · have inside : conn ∈ rest := (List.mem_cons.mp node).resolve_left here
      cases waits : value.waiting with
      | true =>
        simp only [if_true, member]
        exact ih distinct' tidy later succeeds inside found
      | false =>
        simp only [Bool.false_eq_true, if_false, kept, if_true]
        obtain ⟨found', unsent⟩ := connectionReply_other tidy member found here nonempty
        rw [← unsent]
        refine ih distinct' tidy' ?_ ?_ inside found'
        · rw [reply]
          exact later
        · rw [reply]
          exact succeeds

/--
Messages from the bus reach the right connections.

Nothing is written to a connection with a pending request, and if no write fails,
every connection without one is written to.
-/
def BroadcastsProperly (world : World) : Prop :=
  ∀ buffer, buffer ≠ [] → ∀ conn connection, world.2.heap conn = some connection →
    -- A client that waits for an answer is passed over.
    (some conn ∈ owners world.1 →
      sentFrames connection.serial (serverBroadcast buffer world).2.log =
        sentFrames connection.serial world.2.log) ∧
    -- All others are sent the frame once, as long as no write fails.
    (some conn ∉ owners world.1 →
      (∀ turn, writeSucceeds defaultNetFramesize (world.2.writes turn) = true) →
      sentFrames connection.serial (serverBroadcast buffer world).2.log =
        sentFrames connection.serial world.2.log ++ [buffer])

/-- Flags that mean what they should mean lead the broadcasts to the right connections. -/
theorem WaitingExact.broadcasts {world : World} (tidy : Tidy world)
    (waiting : WaitingExact world) : BroadcastsProperly world := by
  -- The exact flag says which connections the walk passes over.
  intro buffer nonempty conn connection found
  have flag := waiting conn connection found
  have listed : ∀ other ∈ world.2.server.connections, other ∈ world.2.server.connections :=
    fun _ member => member
  have walk : serverBroadcast buffer world =
      broadcastFrom buffer world.2.server.connections world := if_neg nonempty
  rw [walk]
  refine ⟨fun owed => ?_, fun free succeeds => ?_⟩
  · exact broadcastFrom_passes nonempty tidy listed found (.inl (flag.mpr owed))
  · refine broadcastFrom_reaches nonempty tidy.registered.linked.distinct tidy listed succeeds
      (tidy.registered.listed conn connection found) found ?_
    exact Bool.eq_false_iff.mpr fun raised => free (flag.mp raised)

/-- The flags are right when the program enters its event loop. -/
theorem waitingExact_start (config : Config) : WaitingExact (mainStart config) := by
  intro conn connection found
  cases found

/--
The waiting flag is right exactly in the runs whose steps keep it.

A step keeps it if every whole frame it reads is a request that is taken or answered at once,
or comes while another request is pending, and if every reply it writes is the last one owed.
In such runs, broadcasts never come between a request and its reply, and reach all others.
-/
theorem waiting_exact_iff_kept (config : Config) (events : List SystemEvent) :
    (Throughout (systemStep serverBroadcaster) WaitingExact (mainStart config) events ↔
      StepsMeet (systemStep serverBroadcaster) KeepsWaiting (mainStart config) events) ∧
    (StepsMeet (systemStep serverBroadcaster) KeepsWaiting (mainStart config) events →
      BroadcastsProperly (run (systemStep serverBroadcaster) (mainStart config) events)) := by
  -- The flag is exact over the run, and the last state is one of the run.
  have invariant : ∀ world event, Sound world →
      Sound (systemStep serverBroadcaster world event) :=
    fun _ event sound => sound.step serverBroadcaster event
  have survives : ∀ world event, Sound world → WaitingExact world →
      (WaitingExact (systemStep serverBroadcaster world event) ↔ KeepsWaiting world event) :=
    fun _ event sound waiting => step_waitingExact_iff sound waiting event
  have runs := throughout_iff_stepsMeet invariant survives (sound_start config)
    (waitingExact_start config) events
  refine ⟨runs, fun kept => ?_⟩
  exact (runs.mpr kept).last.broadcasts (sound_run serverBroadcaster config events).tidy

/-- The client sends a frame of another protocol version. -/
def clientMumbles : List SystemEvent :=
  clientConnects ++ [.row 3 { calmInput with buffer := some [1, 0, 1, 2] }]

/-- The client sends two requests in a row, of which the adapter answers the first one. -/
def clientPipelines : List SystemEvent :=
  -- The client sends a second request before the first is answered.
  let completes transfer status received : SystemEvent :=
    .row 0 { calmInput with completion := some ⟨transfer, status, received, 0⟩ }
  clientConnects ++ [.row 3 clientAsks, .row 3 clientAsks, completes 0 .cancelled [],
    completes 1 .completed [], completes 2 .completed [0x12, 0x72, 0, 0, 1, 2, 0, 0, 1]]

/-- One account with a wrong flag is enough. -/
theorem not_waitingExact {world : World} {conn : ConnPtr} {account : Account}
    (found : accountOf world.2 conn = some account)
    (wrong : ¬ Honest account ((owners world.1).count (some conn))) : ¬ WaitingExact world := by
  rw [waitingExact_iff]
  exact fun each => wrong (each conn account found)

/-- A frame that is ignored raises the flag for good, and pipelining lowers it too early. -/
theorem waiting_flag_misleads :
    ¬ WaitingExact (run (systemStep serverBroadcaster) (mainStart plainConfig) clientMumbles) ∧
      ¬ WaitingExact (run (systemStep serverBroadcaster) (mainStart plainConfig)
        clientPipelines) := by
  constructor
  · -- The flag is up, and nothing is owed.
    have found : accountOf (run (systemStep serverBroadcaster) (mainStart plainConfig)
        clientMumbles).2 0 = some ⟨0, 0, true⟩ := by decide +kernel
    have owed : (owners (run (systemStep serverBroadcaster) (mainStart plainConfig)
        clientMumbles).1).count (some 0) = 0 := by decide +kernel
    exact not_waitingExact found (by rw [owed]; simp [Honest])
  · -- The flag is down, and the second request is still pending.
    have found : accountOf (run (systemStep serverBroadcaster) (mainStart plainConfig)
        clientPipelines).2 0 = some ⟨2, 1, false⟩ := by decide +kernel
    have owed : (owners (run (systemStep serverBroadcaster) (mainStart plainConfig)
        clientPipelines).1).count (some 0) = 1 := by decide +kernel
    exact not_waitingExact found (by rw [owed]; simp [Honest])

end Daliserver
