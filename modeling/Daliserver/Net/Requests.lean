import Daliserver.Net.Accounts

/-! No request is lost as long as the device takes it: the counting law of requests and replies. -/

namespace Daliserver

open Machine

/-- The requests read from every open connection are those answered and those pending. -/
def Balanced (world : World) : Prop :=
  ∀ conn connection, world.2.heap conn = some connection →
    requestsRead connection.serial world.2.log =
      repliesWritten connection.serial world.2.log + (owners world.1).count (some conn)

/-- The counting law, as a fact about an account. -/
def Even (account : Account) (owed : Nat) : Prop := account.requests = account.replies + owed

/-- The counting law is a fact about every account on the desk. -/
theorem balanced_iff (world : World) : Balanced world ↔ (deskOf world).Each Even := by
  -- The accounts are the same numbers, collected by address.
  constructor
  · intro balanced conn account found
    obtain ⟨connection, there, rfl⟩ := Option.map_eq_some_iff.mp found
    exact balanced conn connection there
  · intro each conn connection found
    have there : (deskOf world).accounts conn = _ := congrArg (Option.map _) found
    exact each conn _ there

/-- A request that is read while there is a device finds room and memory. -/
def Accepts : World → SystemEvent → Prop :=
  RowMeets
    (fun world input _ => ∀ buffer, input.buffer = some buffer → isRequest buffer = true →
      world.2.server.arg ≠ none →
      world.1.queue.length < world.1.queueSize ∧ input.memory = true)
    (fun _ _ => True)

/-- A read keeps the law exactly if it reads no request that the device turns down. -/
theorem Desk.Each.read_even {desk : Desk} (even : desk.Each Even) (world : World) (input : Input)
    {conn : ConnPtr} {account : Account} (found : desk.accounts conn = some account) :
    (desk.read world input conn).Each Even ↔
      ∀ buffer, input.buffer = some buffer → isRequest buffer = true →
        world.2.server.arg ≠ none →
        world.1.queue.length < world.1.queueSize ∧ input.memory = true := by
  have own : account.requests = account.replies + desk.owed conn := even conn account found
  unfold Desk.read
  cases input.buffer with
  | none => exact iff_of_true (even.close conn) fun buffer named => by cases named
  | some buffer =>
    simp only [Option.some.injEq, forall_eq']
    by_cases request : isRequest buffer = true
    · rw [if_neg (isRequest_length request), if_pos request]
      by_cases dry : world.2.server.arg = none
      · -- The server itself answers, or it closes the connection.
        rw [if_pos dry]
        refine iff_of_true ?_ fun _ device => absurd dry device
        split
        · rw [even.echoed_iff found]
          simp only [Even, Account.asked, Account.told, request, if_true]
          have reply : isReply [defaultNetProtocol, netStatusResponse, 0, 0] = true := rfl
          rw [reply, if_pos rfl]
          omega
        · exact even.close conn
      · rw [if_neg dry]
        by_cases room : world.1.queue.length < world.1.queueSize ∧ input.memory = true
        · rw [if_pos room]
          refine iff_of_true ?_ fun _ _ => room
          rw [even.taken_iff found]
          simp only [Even, Account.asked, request, if_true]
          omega
        · -- The request is on the account, but neither answered nor pending.
          rw [if_neg room]
          refine iff_of_false ?_ fun taken => room (taken request dry)
          rw [even.heard_iff found]
          simp only [Even, Account.asked, request, if_true]
          omega
    · refine iff_of_true ?_ fun asked => absurd asked request
      rw [if_neg request]
      split
      · exact even.close conn
      · rw [even.heard_iff found]
        simpa [Even, Account.asked, request] using own

/-- A message from the bus is not a reply. -/
theorem isReply_broadcastFrame (address command : UInt8) :
    isReply (broadcastFrame address command) = false := rfl

/-- A walk with a message from the bus keeps the law. -/
theorem walk_even {address command : UInt8} {visits : List Visit} {world : World}
    (tidy : Tidy world) (live : LiveVisits (broadcastFrame address command) world visits)
    (even : (deskOf world).Each Even) :
    (deskOf (visits.foldl (visit (broadcastFrame address command)) world)).Each Even := by
  -- A broadcast frame is no reply, so it changes neither side of the balance.
  induction visits generalizing world with
  | nil => exact even
  | cons step rest ih =>
    cases step with
    | reply conn =>
      obtain ⟨member, later⟩ := live
      have nonempty : broadcastFrame address command ≠ [] := List.cons_ne_nil _ _
      refine ih (tidy.reply member nonempty) later ?_
      simp only [visit]
      rw [deskOf_reply tidy member nonempty]
      split
      · obtain ⟨account, found⟩ := tidy.account member
        rw [even.answered_iff found]
        simpa [Even, Account.told, isReply_broadcastFrame] using even conn account found
      · exact even.close conn
    | stray conn =>
      refine ih (tidy.stray conn) live ?_
      simp only [visit]
      rw [deskOf_record]
      exact even

/-- Whatever the device reports, the law is kept. -/
theorem carryOut_even (broadcaster : Broadcaster) {world : World} (tidy : Tidy world)
    (service : InService world.1) (alive : ActiveAlive world.1)
    (even : (deskOf world).Each Even) (report : Report) :
    (deskOf (report.carryOut (serverHandlers broadcaster) world)).Each Even := by
  cases report with
  | silent => exact even
  | broadcast error frame status =>
    obtain ⟨arg, noted, calm, same, _, reported⟩ :=
      carryOut_broadcast broadcaster tidy service error frame status
    obtain ⟨address, command, visits, walk, live⟩ :=
      daliOutbandHandler_walk broadcaster error frame arg calm.books.open_
    rw [reported, walk]
    exact walk_even calm (live calm.registered.linked) (same ▸ even)
  | finished error frame response status =>
    rw [deskOf_finished broadcaster tidy service alive]
    unfold Desk.finish
    split
    · exact even
    · rename_i conn own
      obtain ⟨transaction, active, arg⟩ := Option.bind_eq_some_iff.mp own
      have owed : some conn ∈ owners world.1 := by simp [owners, pendingRequests, active, arg]
      obtain ⟨account, found⟩ := tidy.account (tidy.bound.args conn owed)
      split
      · rw [even.settled_iff found]
        -- One request less is pending, and one reply more is written.
        have positive : 0 < (deskOf world).owed conn := List.count_pos_iff.mpr owed
        have before : account.requests = account.replies + (deskOf world).owed conn :=
          even conn account found
        have reply : isReply (replyFrame error response) = true := by
          unfold replyFrame
          split
          · rfl
          · split <;> rfl
        simp only [Even, Account.told, reply, if_true]
        omega
      · exact even.close conn

/-- The law survives a step exactly if the step accepts the request it reads. -/
theorem step_balanced_iff (broadcaster : Broadcaster) {world : World} (sound : Sound world)
    (balanced : Balanced world) (event : SystemEvent) :
    Balanced (systemStep broadcaster world event) ↔ Accepts world event := by
  rw [balanced_iff] at balanced ⊢
  refine step_each_iff rfl ?_ ?_ (fun _ _ _ _ => Iff.rfl) (fun _ _ _ => Iff.rfl) sound balanced event
  · intro world input conn sound even member
    obtain ⟨account, found⟩ := sound.tidy.account member
    exact even.read_even world input found
  · -- Whatever the device reports, the law survives.
    intro world input sound even
    refine iff_of_true ((usbReady_each_iff broadcaster sound even input).mpr ?_) trivial
    intro completion transfer _ _
    obtain ⟨tidy, service, alive⟩ := sound.retired transfer
    exact carryOut_even broadcaster tidy service alive even _

/-- What the pending requests are: their numbers, their frames, and their connections. -/
def requestList (dali : UsbDali ConnPtr) : List (Nat × DaliFrame × Option ConnPtr) :=
  (pendingRequests dali).map fun transaction =>
    (transaction.id, transaction.request, transaction.arg)

/-- The request has become the last one pending, and nothing is written yet. -/
def Queued (conn : ConnPtr) (serial : Nat) (buffer : Bytes) (before after : World) : Prop :=
  requestList after.1 = requestList before.1 ++
      [(before.1.transactions, daliframeNew (buffer.getD 2 0) (buffer.getD 3 0), some conn)] ∧
    sentFrames serial after.2.log = sentFrames serial before.2.log

/-- One frame is written to the connection, which is a reply, and nothing is left pending. -/
def Replied (serial : Nat) (before after : World) : Prop :=
  requestList after.1 = requestList before.1 ∧
    ∃ reply, isReply reply = true ∧
      sentFrames serial after.2.log = sentFrames serial before.2.log ++ [reply]

@[simp] theorem sentFrames_concat (serial : Nat) (log : List NetEffect) (effect : NetEffect) :
    sentFrames serial (log ++ [effect]) =
      sentFrames serial log ++ (effect.sentTo serial).toList :=
  filterMap_concat _ _ _

/-- A request that the device takes is the last one pending. -/
theorem requestList_queue {dali : UsbDali ConnPtr} {memory : Bool}
    (room : dali.queue.length < dali.queueSize ∧ memory = true) (submit : Int)
    (frame : DaliFrame) (conn : ConnPtr) :
    requestList (usbdaliQueue memory submit frame (some conn) dali).1 =
      requestList dali ++ [(dali.transactions, frame, some conn)] := by
  -- The new request is listed last, and sending one on keeps the order.
  rw [usbdaliQueue_eq, if_pos room, requestList]
  refine (map_pendingRequests_next (fun _ _ => rfl) submit _).trans ?_
  simp [requestList, pendingRequests, enqueued, newTransaction]

/-- In a dry run, the connection is answered at once, even if it is closed afterwards. -/
theorem replied_dry {world : World} {conn : ConnPtr} {connection : Connection}
    (found : world.2.heap conn = some connection) (dry : connection.destroyarg = none)
    (reply : Bytes) (nonempty : reply ≠ []) (replies : isReply reply = true) :
    Replied connection.serial world (connectionReply conn reply world) := by
  -- The frame is logged before a failed write removes the connection.
  have told : forgotten conn connection world.1 = world.1 := by
    unfold forgotten
    exact if_neg fun device => device.2 dry
  rw [connectionReply_eq found nonempty]
  split
  · exact ⟨rfl, reply, replies, by simp [onNet, Net.answered]⟩
  · refine ⟨by rw [told], reply, replies, ?_⟩
    show sentFrames connection.serial ((world.2.answered conn connection reply).log ++ _) = _
    rw [sentFrames_concat]
    simp [Net.answered]

/--
A request is either queued or answered at once, unless the device turns it down.

If it does, nothing is queued and nothing is written.
-/
theorem request_handled_iff {world : World} (tidy : Tidy world) {conn : ConnPtr}
    {connection : Connection} (found : world.2.heap conn = some connection) {input : Input}
    {buffer : Bytes} (named : input.buffer = some buffer) (request : isRequest buffer = true) :
    Queued conn connection.serial buffer world (connectionReady input conn world) ∨
        Replied connection.serial world (connectionReady input conn world) ↔
      world.2.server.arg = none ∨
        world.1.queue.length < world.1.queueSize ∧ input.memory = true := by
  let heard : World := onNet (·.heard conn connection buffer) world
  have ready : connectionReady input conn world =
      netFrameHandler input.memory input.submit world.2.server.arg buffer conn heard := by
    rw [connectionReady_eq found, named, tidy.books.framesize]
    exact if_neg (isRequest_length request)
  have unsent : sentFrames connection.serial heard.2.log =
      sentFrames connection.serial world.2.log := by
    simp [heard, onNet, Net.heard]
  rw [ready, netFrameHandler_eq, if_pos request]
  cases device : world.2.server.arg with
  | none =>
    refine iff_of_true (.inr ?_) (.inl rfl)
    have there : heard.2.heap conn = some { connection with waiting := true } :=
      Function.update_self ..
    have dry : connection.destroyarg = none := by
      rw [(tidy.books.destroy conn connection found).2, device]
    obtain ⟨same, reply, replies, sent⟩ := replied_dry there dry
      [defaultNetProtocol, netStatusResponse, 0, 0] (by simp) rfl
    rw [unsent] at sent
    exact ⟨same, reply, replies, sent⟩
  | some pointer =>
    cases pointer
    simp only [reduceCtorEq, false_or]
    by_cases room : world.1.queue.length < world.1.queueSize ∧ input.memory = true
    · exact iff_of_true (.inl ⟨requestList_queue room .., unsent⟩) room
    · refine iff_of_false ?_ room
      -- The device has not changed, and nothing was written.
      have same : requestList (usbdaliQueue input.memory input.submit
          (daliframeNew (buffer.getD 2 0) (buffer.getD 3 0)) (some conn) world.1).1 =
          requestList world.1 := by
        rw [usbdaliQueue_eq, if_neg room]
        rfl
      rintro (⟨longer, _⟩ | ⟨_, reply, _, sent⟩)
      · have length := congrArg List.length (same.symm.trans longer)
        simp at length
      · have length := congrArg List.length (unsent.symm.trans sent)
        simp at length

/-- The law holds when the program enters its event loop. -/
theorem balanced_start (config : Config) : Balanced (mainStart config) := by
  intro conn connection found
  cases found

/-- The law holds throughout a run exactly if every step accepts the request it reads. -/
theorem throughout_balanced_iff (broadcaster : Broadcaster) (config : Config)
    (events : List SystemEvent) :
    Throughout (systemStep broadcaster) Balanced (mainStart config) events ↔
      StepsMeet (systemStep broadcaster) Accepts (mainStart config) events := by
  -- One step keeps the balance exactly when it meets the condition, so runs do too.
  have invariant : ∀ world event, Sound world → Sound (systemStep broadcaster world event) :=
    fun _ event sound => sound.step broadcaster event
  have survives : ∀ world event, Sound world → Balanced world →
      (Balanced (systemStep broadcaster world event) ↔ Accepts world event) :=
    fun _ event sound balanced => step_balanced_iff broadcaster sound balanced event
  exact throughout_iff_stepsMeet invariant survives (sound_start config)
    (balanced_start config) events

/--
Requests are lost exactly where the device turns them down.

In a run, every request of an open connection is answered or pending in all states
if and only if every request that was read found room and memory on the device.
In any state that a run reaches, a request that is read is queued or answered at once
if and only if there is no device or the device has room and memory for it.
-/
theorem requests_answered_iff_accepted (broadcaster : Broadcaster) (config : Config)
    (events : List SystemEvent) :
    let world := run (systemStep broadcaster) (mainStart config) events
    (Throughout (systemStep broadcaster) Balanced (mainStart config) events ↔
      StepsMeet (systemStep broadcaster) Accepts (mainStart config) events) ∧
    ∀ conn connection input buffer, world.2.heap conn = some connection →
      input.buffer = some buffer → isRequest buffer = true →
      (Queued conn connection.serial buffer world (connectionReady input conn world) ∨
          Replied connection.serial world (connectionReady input conn world) ↔
        world.2.server.arg = none ∨
          world.1.queue.length < world.1.queueSize ∧ input.memory = true) := by
  -- The balance over runs and the fate of a single request are separate arguments.
  intro world
  refine ⟨throughout_balanced_iff broadcaster config events, ?_⟩
  intro conn connection input buffer found named request
  exact request_handled_iff (sound_run broadcaster config events).tidy found named request

/-- A request that the device turns down breaks the law. -/
theorem not_balanced_of_rejected {broadcaster : Broadcaster} {config : Config}
    {past : List SystemEvent} {index : Nat} {input : Input} {registration : Nat}
    {conn : ConnPtr} {error : Option DispatchError} {buffer : Bytes} {world : World}
    (reached : world = run (systemStep broadcaster) (mainStart config) past)
    (possible : input.possible world.2 = true)
    (row : rowCall world.2 index =
      some ⟨registration, .connectionReady, some (.connection conn), error⟩)
    (named : input.buffer = some buffer) (request : isRequest buffer = true)
    (device : world.2.server.arg ≠ none)
    (full : ¬ (world.1.queue.length < world.1.queueSize ∧ input.memory = true)) :
    ¬ Throughout (systemStep broadcaster) Balanced (mainStart config)
      (past ++ [.row index input]) := by
  -- The rejecting step is judged in the state the past leads to.
  intro always
  have met := (throughout_balanced_iff broadcaster config _).mp always
  have accepts := met.middle
  rw [← reached] at accepts
  have taken := accepts possible
  rw [row] at taken
  exact full (taken buffer named request device)

/-- A program with a device, whose submissions and writes all succeed. -/
def plainConfig : Config where
  listener := 3
  ipcFd := 4
  usbFds := [(5, 1)]
  dryrun := false
  submit := 0
  writes := fun _ => some 4
  distinct := by decide
  valid := by decide

/-- Surroundings in which nothing happens and nothing fails. -/
def calmInput : Input := ⟨none, true, 0, none, true, 0, none, none⟩

/-- A client connects, and from then on `poll` reports it as readable. -/
def clientConnects : List SystemEvent :=
  [.polled fun _ => pollIn, .row 1 { calmInput with socket := some 6 }, .polled fun _ => pollIn]

/-- The client sends a well formed request. -/
def clientAsks : Input := { calmInput with buffer := some [2, 0, 1, 2] }

/-- After 255 requests and no completion, the next request vanishes without a trace. -/
theorem full_queue_drops_request :
    let world := run (systemStep serverBroadcaster) (mainStart plainConfig)
      (clientConnects ++ List.replicate 255 (.row 3 clientAsks))
    (∃ connection, world.2.heap 0 = some connection ∧
      ¬ Queued 0 connection.serial [2, 0, 1, 2] world (connectionReady clientAsks 0 world) ∧
      ¬ Replied connection.serial world (connectionReady clientAsks 0 world)) ∧
    ¬ Throughout (systemStep serverBroadcaster) Balanced (mainStart plainConfig)
      (clientConnects ++ List.replicate 255 (.row 3 clientAsks) ++ [.row 3 clientAsks]) := by
  intro world
  have tidy : Tidy world := (sound_run ..).tidy
  have found : world.2.heap 0 = some ⟨0, 6, true, true, some .usb⟩ := by decide +kernel
  have device : world.2.server.arg = some .usb := by decide +kernel
  have full : world.1.queue.length = world.1.queueSize := by decide +kernel
  have row : rowCall world.2 3 = some ⟨3, .connectionReady, some (.connection 0), none⟩ := by
    decide +kernel
  have asks : clientAsks.buffer = some [2, 0, 1, 2] := rfl
  have reached : world = run (systemStep serverBroadcaster) (mainStart plainConfig)
      (clientConnects ++ List.replicate 255 (.row 3 clientAsks)) := rfl
  -- From here on, the facts just computed are all there is to know about the state.
  clear_value world
  refine ⟨⟨_, found, ?_⟩, ?_⟩
  · have dropped := (request_handled_iff tidy found asks rfl).not.mpr (by
      rw [device, full]
      simp)
    exact ⟨fun queued => dropped (.inl queued), fun replied => dropped (.inr replied)⟩
  · -- The last step reads a request that finds the queue full.
    have possible : ∀ net, clientAsks.possible net = true := fun _ => rfl
    have attached : world.2.server.arg ≠ none := by
      rw [device]
      exact Option.some_ne_none _
    have refused : ¬ (world.1.queue.length < world.1.queueSize ∧ clientAsks.memory = true) := by
      rw [full]
      exact fun room => Nat.lt_irrefl _ room.1
    exact not_balanced_of_rejected reached (possible world.2) row asks rfl attached refused

end Daliserver
