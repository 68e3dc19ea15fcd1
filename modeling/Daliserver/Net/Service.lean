import Mathlib.Data.List.Forall2
import Daliserver.Machine.Service
import Daliserver.Net.Requests

/-! The program is one counter for all of its clients, with the queue of the device as its line. -/

namespace Daliserver

open Machine

/-- How a request ended, as `req_callback` is told: the error and the response. -/
abbrev Outcome := UsbDaliError × Nat

/-- The outcome an effect reports. -/
@[simp] def UsbEffect.outcome {α : Type} : UsbEffect α → Option Outcome
  | .reqCallback _ error _ response _ => some (error, response)
  | _ => none

/-- The outcomes reported by the device, oldest first. -/
def reportedOutcomes {α : Type} (trace : List (UsbEffect α)) : List Outcome :=
  trace.filterMap UsbEffect.outcome

/-- The reply an effect wrote, and to whom. -/
@[simp] def NetEffect.reply : NetEffect → Option (Nat × Bytes)
  | .sent serial frame _ => if isReply frame then some (serial, frame) else none
  | _ => none

/-- The replies written to all clients, oldest first. -/
def replyLog (log : List NetEffect) : List (Nat × Bytes) := log.filterMap NetEffect.reply

/-- The request in a frame. -/
def requestFrame (buffer : Bytes) : DaliFrame := daliframeNew (buffer.getD 2 0) (buffer.getD 3 0)

/-- The requests read from a connection, oldest first. -/
def requestsFrom (serial : Nat) (log : List NetEffect) : List DaliFrame :=
  ((receivedFrames serial log).filter isRequest).map requestFrame

/-- The request that a read takes from a client, and the number of the client. -/
def takes (world : World) (input : Input) (conn : ConnPtr) : Option (Nat × DaliFrame) :=
  match world.2.heap conn, input.buffer with
  | some connection, some buffer =>
    -- The device takes a request if there is room and memory for it.
    if isRequest buffer ∧ world.1.queue.length < world.1.queueSize ∧ input.memory = true then
      some (connection.serial, requestFrame buffer)
    else none
  | _, _ => none

/-- The request that a step of the program takes from a client. -/
def asks (world : World) : SystemEvent → Option (Nat × DaliFrame)
  | .polled _ => none
  | .row index input =>
    if input.possible world.2 then
      match rowCall world.2 index with
      | some ⟨_, .connectionReady, some (.connection conn), _⟩ =>
        takes world input conn
      | _ => none
    else none

/-- The number of the client whose connection has an address. -/
def clientAt (net : Net) (conn : ConnPtr) : Option Nat := (net.heap conn).map (·.serial)

/-- A pending request is the ticket of the client it is owed to, or of one that has left. -/
def Holds (net : Net) (owner : Option ConnPtr) (ticket : Nat × DaliFrame) : Prop :=
  match owner with
  | some conn => clientAt net conn = some ticket.1
  | none => ∀ conn, clientAt net conn ≠ some ticket.1

/-- The program does what the counter does. -/
structure Serves (world : World) (service : Service Nat DaliFrame Outcome) : Prop where
  present : ∀ serial, serial ∈ service.present ↔ ∃ conn, clientAt world.2 conn = some serial
  arrived : ∀ serial ∈ service.arrived, serial < world.2.serials
  line : List.Forall₂ (Holds world.2) (owners world.1) service.line
  outcomes : reportedOutcomes world.1.trace = service.outcomes
  frames : (acceptedRequests world.1.trace).map Prod.snd = service.asked.map Prod.snd
  replies : replyLog world.2.log =
    service.told.map fun entry => (entry.1, replyFrame entry.2.2.1 entry.2.2.2)
  heard : ∀ serial, ((service.asked.filter (·.1 = serial)).map Prod.snd).Sublist
    (requestsFrom serial world.2.log)

/-- The counter sees these parts of the program only. -/
theorem Serves.congr {before after : World} {service : Service Nat DaliFrame Outcome}
    (serves : Serves before service) (clients : clientAt after.2 = clientAt before.2)
    (serials : after.2.serials = before.2.serials) (same : owners after.1 = owners before.1)
    (reported : reportedOutcomes after.1.trace = reportedOutcomes before.1.trace)
    (accepted : acceptedRequests after.1.trace = acceptedRequests before.1.trace)
    (replies : replyLog after.2.log = replyLog before.2.log)
    (heard : ∀ serial, (requestsFrom serial before.2.log).Sublist
      (requestsFrom serial after.2.log)) : Serves after service := by
  -- Who holds which ticket depends on the numbers of the clients only.
  have holds : Holds after.2 = Holds before.2 := by
    funext owner ticket
    simp only [Holds, clients]
  refine ⟨?_, ?_, ?_, ?_, ?_, ?_, ?_⟩
  · rw [clients]
    exact serves.present
  · rw [serials]
    exact serves.arrived
  · rw [holds, same]
    exact serves.line
  · rw [reported]
    exact serves.outcomes
  · rw [accepted]
    exact serves.frames
  · rw [replies]
    exact serves.replies
  · exact fun serial => (serves.heard serial).trans (heard serial)

/-- The device may do anything that reports nothing, accepts nothing and keeps the owners. -/
theorem Serves.device {world : World} {service : Service Nat DaliFrame Outcome}
    (serves : Serves world service) {dali : UsbDali ConnPtr} (same : owners dali = owners world.1)
    (reported : reportedOutcomes dali.trace = reportedOutcomes world.1.trace)
    (accepted : acceptedRequests dali.trace = acceptedRequests world.1.trace) :
    Serves (dali, world.2) service :=
  serves.congr rfl rfl same reported accepted rfl fun _ => List.Sublist.refl _

/-- Scheduling adds nothing to what a selection keeps that ignores transfers. -/
theorem filterMap_trace_next {α β : Type} {select : UsbEffect α → Option β}
    (submissions : ∀ transfer owner code, select (.submitted transfer owner code) = none)
    (stops : ∀ transfer, select (.cancelled transfer) = none) (submit : Int) (dali : UsbDali α) :
    (usbdaliNext submit dali).trace.filterMap select = dali.trace.filterMap select := by
  -- Scheduling adds a submission or a cancellation to the trace, or nothing.
  rcases usbdaliNext_cases submit dali with same | ⟨transfer, _, stopped⟩ | listens |
    ⟨transaction, rest, _, _, sends⟩
  · rw [same]
  · rw [stopped]
    simp [libusbCancelTransfer, stops]
  · rw [listens]
    simp [receiving, submissions]
  · rw [sends]
    simp [sending, submissions]

@[simp] theorem reportedOutcomes_concat {α : Type} (trace : List (UsbEffect α))
    (effect : UsbEffect α) :
    reportedOutcomes (trace ++ [effect]) = reportedOutcomes trace ++ effect.outcome.toList :=
  filterMap_concat _ _ _

@[simp] theorem reportedOutcomes_next {α : Type} (submit : Int) (dali : UsbDali α) :
    reportedOutcomes (usbdaliNext submit dali).trace = reportedOutcomes dali.trace :=
  filterMap_trace_next (fun _ _ _ => rfl) (fun _ => rfl) submit dali

@[simp] theorem acceptedRequests_next {α : Type} (submit : Int) (dali : UsbDali α) :
    acceptedRequests (usbdaliNext submit dali).trace = acceptedRequests dali.trace :=
  filterMap_trace_next (fun _ _ _ => rfl) (fun _ => rfl) submit dali

/-- Deciding what to do next is nothing the counter would notice. -/
theorem Serves.next {world : World} {service : Service Nat DaliFrame Outcome}
    (serves : Serves world service) (submit : Int) (endpoint : Endpoint) :
    Serves (onDali (fun dali => usbdaliNext submit (clearSlot endpoint dali)) world) service := by
  -- Neither clearing a slot nor the next transfer concerns the requests that are pending.
  have trace : (clearSlot endpoint world.1).trace = world.1.trace := (clearSlot_rest ..).1
  refine serves.device ?_ ?_ ?_
  · rw [owners_next]
    cases endpoint <;> exact owners_congr rfl rfl
  · rw [reportedOutcomes_next, trace]
  · rw [acceptedRequests_next, trace]

/-- A flag is nothing the counter would notice. -/
theorem clientAt_flag {before after : Net} {conn : ConnPtr} {connection : Connection}
    (flagged : Flagged conn connection before after) : clientAt after = clientAt before := by
  -- A flag is no part of what a connection is known by.
  funext other
  obtain ⟨waiting, same⟩ := flagged.same other
  rw [clientAt, clientAt, same, Option.map_map]
  rfl

@[simp] theorem replyLog_concat (log : List NetEffect) (effect : NetEffect) :
    replyLog (log ++ [effect]) = replyLog log ++ effect.reply.toList :=
  filterMap_concat _ _ _

@[simp] theorem requestsFrom_concat (serial : Nat) (log : List NetEffect) (effect : NetEffect) :
    requestsFrom serial (log ++ [effect]) = requestsFrom serial log ++
      ((effect.receivedFrom serial).toList.filter isRequest).map requestFrame := by
  rw [requestsFrom, receivedFrames, filterMap_concat, List.filter_append, List.map_append]
  rfl

/-- Reading from a client or writing anything but a reply leaves the counter as it is. -/
theorem Serves.flag {world : World} {service : Service Nat DaliFrame Outcome}
    (serves : Serves world service) {conn : ConnPtr} {connection : Connection} {after : Net}
    (flagged : Flagged conn connection world.2 after)
    (replies : replyLog after.log = replyLog world.2.log)
    (heard : ∀ serial, (requestsFrom serial world.2.log).Sublist
      (requestsFrom serial after.log)) : Serves (world.1, after) service :=
  serves.congr (clientAt_flag flagged) flagged.serials rfl rfl rfl replies heard

/-- No two addresses belong to the same client. -/
theorem Books.client_unique {net : Net} (books : Books net) {conn other : ConnPtr} {serial : Nat}
    (first : clientAt net conn = some serial) (second : clientAt net other = some serial) :
    conn = other := by
  obtain ⟨one, found, rfl⟩ := Option.map_eq_some_iff.mp first
  obtain ⟨two, found', same⟩ := Option.map_eq_some_iff.mp second
  exact books.distinct conn other one two found found' same.symm

/-- After a removal, everyone but the removed client is where they were. -/
theorem clientAt_without {net : Net} {conn : ConnPtr} {connection : Connection} (other : ConnPtr) :
    clientAt (net.without conn connection) other =
      if other = conn then none else clientAt net other := by
  by_cases same : other = conn
  · simp [clientAt, Net.without, same]
  · simp [clientAt, Net.without, same]

/-- A connection that is forgotten has its place in the line taken by nobody. -/
theorem Tidy.owners_forgotten_eq {world : World} (tidy : Tidy world) {conn : ConnPtr}
    {connection : Connection} (found : world.2.heap conn = some connection) :
    owners (forgotten conn connection world.1) =
      (owners world.1).map fun owner => if owner = some conn then none else owner := by
  obtain ⟨installed, arg⟩ := tidy.books.destroy conn connection found
  unfold forgotten
  by_cases device : world.2.server.arg = none
  · -- Without a device nothing is pending at all.
    rw [if_neg (by simp [arg, device]), tidy.bound.dry device]
    rfl
  · rw [if_pos ⟨installed, by rwa [arg]⟩, owners_cancel]

/-- Forgetting a connection puts nothing on the trace. -/
theorem forgotten_trace (conn : ConnPtr) (connection : Connection) (dali : UsbDali ConnPtr) :
    (forgotten conn connection dali).trace = dali.trace := by
  obtain ⟨args, cancelled⟩ := forgotten_cancels conn connection dali
  rw [cancelled, cancelAll_eq]

/-- A connection that is removed is a client that leaves. -/
theorem Serves.remove {world : World} {service : Service Nat DaliFrame Outcome}
    (serves : Serves world service) (tidy : Tidy world) {conn : ConnPtr}
    {connection : Connection} (found : world.2.heap conn = some connection) :
    Serves (forgotten conn connection world.1, world.2.without conn connection)
      (service.step (.leave connection.serial)) := by
  -- The client is struck from the list of those present, and from nothing else.
  have here : clientAt world.2 conn = some connection.serial := by simp [clientAt, found]
  have log : (world.2.without conn connection).log =
      world.2.log ++ [.released connection.serial] := rfl
  have trace := forgotten_trace conn connection world.1
  refine ⟨?_, serves.arrived, ?_, ?_, ?_, ?_, ?_⟩
  · -- Everyone else is still where they were.
    intro serial
    simp only [Service.step, List.mem_filter, serves.present, clientAt_without,
      decide_eq_true_eq]
    constructor
    · rintro ⟨⟨other, there⟩, apart⟩
      refine ⟨other, ?_⟩
      rw [if_neg, there]
      rintro rfl
      exact apart (Option.some.inj (there.symm.trans here))
    · rintro ⟨other, there⟩
      split at there
      · cases there
      · rename_i apart
        refine ⟨⟨other, there⟩, ?_⟩
        rintro rfl
        exact apart (tidy.books.client_unique there here)
  · -- The tickets of the client stay in the line, where they belong to nobody now.
    rw [tidy.owners_forgotten_eq found, List.forall₂_map_left_iff]
    refine serves.line.imp fun owner ticket holds => ?_
    cases owner with
    | none =>
      intro other there
      rw [clientAt_without] at there
      split at there
      · cases there
      · exact holds other there
    | some owner =>
      have own : clientAt world.2 owner = some ticket.1 := holds
      by_cases same : owner = conn
      · subst same
        have mine : connection.serial = ticket.1 := Option.some.inj (here.symm.trans own)
        simp only [if_true]
        intro other there
        rw [clientAt_without] at there
        split at there
        · cases there
        · rename_i apart
          exact apart (tidy.books.client_unique there (mine ▸ here))
      · have differ : ¬ some owner = some conn := fun alike => same (Option.some.inj alike)
        simp only [differ, if_false]
        show clientAt (world.2.without conn connection) owner = some ticket.1
        rw [clientAt_without, if_neg same, own]
  · rw [trace]
    exact serves.outcomes
  · rw [trace]
    exact serves.frames
  · rw [log, replyLog_concat]
    simpa [Service.step] using serves.replies
  · intro serial
    rw [log, requestsFrom_concat]
    simpa [Service.step] using serves.heard serial

/-- A connection that is accepted is a client that arrives. -/
theorem Serves.open {world : World} {service : Service Nat DaliFrame Outcome}
    (serves : Serves world service) {pointer : ConnPtr}
    (free : world.2.heap pointer = none) (fair : service.Fair) (socket : Int) :
    Serves (onNet (fun net => (connectionNew pointer socket net).withConnections
      (· ++ [pointer])) world) (service.step (.arrive world.2.serials)) := by
  -- A new number was never seen before, so no ticket can have it.
  have stranger : world.2.serials ∉ service.arrived := fun old =>
    Nat.lt_irrefl _ (serves.arrived _ old)
  have client : ∀ other, clientAt ((connectionNew pointer socket world.2).withConnections
      (· ++ [pointer])) other =
        if other = pointer then some world.2.serials else clientAt world.2 other := by
    intro other
    by_cases same : other = pointer <;>
      simp [clientAt, connectionNew, Net.withConnections, same]
  have nobody : clientAt world.2 pointer = none := by simp [clientAt, free]
  have log : ((connectionNew pointer socket world.2).withConnections (· ++ [pointer])).log =
      world.2.log ++ [.opened world.2.serials] := rfl
  simp only [Service.step, stranger, if_false]
  refine ⟨?_, ?_, ?_, serves.outcomes, serves.frames, ?_, ?_⟩
  · intro serial
    simp only [onNet, client, List.mem_append, List.mem_singleton, serves.present]
    constructor
    · rintro (⟨other, there⟩ | rfl)
      · refine ⟨other, ?_⟩
        rw [if_neg, there]
        rintro rfl
        rw [nobody] at there
        cases there
      · exact ⟨pointer, if_pos rfl⟩
    · rintro ⟨other, there⟩
      split at there
      · exact .inr (Option.some.inj there).symm
      · exact .inl ⟨other, there⟩
  · intro serial member
    show serial < world.2.serials + 1
    rcases List.mem_append.mp member with old | new
    · exact Nat.lt_succ_of_lt (serves.arrived serial old)
    · rw [List.mem_singleton.mp new]
      exact Nat.lt_succ_self _
  · -- No ticket in the line belongs to a client that has just come.
    have tickets : ∀ ticket ∈ service.line, ticket.1 ∈ service.arrived := fun ticket member =>
      fair.tickets ticket (List.mem_of_mem_drop member)
    show List.Forall₂ _ (owners world.1) service.line
    obtain ⟨even, each⟩ := List.forall₂_iff_zip.mp serves.line
    refine List.forall₂_iff_zip.mpr ⟨even, fun {owner ticket} paired => ?_⟩
    have holds := each paired
    have known := tickets ticket (List.of_mem_zip paired).2
    cases owner with
    | none =>
      intro other there
      simp only [onNet, client] at there
      split at there
      · exact stranger (Option.some.inj there ▸ known)
      · exact holds other there
    | some owner =>
      have own : clientAt world.2 owner = some ticket.1 := holds
      show clientAt _ owner = _
      simp only [onNet, client]
      rw [if_neg, own]
      rintro rfl
      rw [nobody] at own
      cases own
  · simpa [onNet, log] using serves.replies
  · intro serial
    simpa [onNet, log] using serves.heard serial

/-- The last request read from a client is the last of its requests on the log. -/
theorem requestsFrom_heard {serial : Nat} {log : List NetEffect} {buffer : Bytes}
    (request : isRequest buffer = true) :
    requestsFrom serial (log ++ [.received serial buffer]) =
      requestsFrom serial log ++ [requestFrame buffer] := by
  simp [request]

/-- A request that the device takes from a client is a ticket at the end of the line. -/
theorem Serves.ask {world : World} {service : Service Nat DaliFrame Outcome}
    (serves : Serves world service) (fair : service.Fair) {conn : ConnPtr}
    {connection : Connection} (found : world.2.heap conn = some connection)
    {buffer : Bytes} (request : isRequest buffer = true) {memory : Bool}
    (room : world.1.queue.length < world.1.queueSize ∧ memory = true) (submit : Int) :
    Serves (onDali (fun dali => (usbdaliQueue memory submit (requestFrame buffer) (some conn)
        dali).1) (onNet (·.heard conn connection buffer) world))
      (service.step (.ask connection.serial (requestFrame buffer))) := by
  -- The request goes to the end of the queue, and its ticket to the end of the line.
  have here : clientAt world.2 conn = some connection.serial := by simp [clientAt, found]
  have clients := clientAt_flag (flagged_heard found buffer)
  have there : connection.serial ∈ service.present := (serves.present _).mpr ⟨conn, here⟩
  have queued : (usbdaliQueue memory submit (requestFrame buffer) (some conn) world.1).1 =
      usbdaliNext submit (enqueued (requestFrame buffer) (some conn) world.1) := by
    rw [usbdaliQueue_eq, if_pos room]
  -- The outcomes are those of the first tickets, so the new one waits.
  have line : (service.step (.ask connection.serial (requestFrame buffer))).line =
      service.line ++ [(connection.serial, requestFrame buffer)] := by
    simp only [Service.step, there, if_true, Service.line]
    exact List.drop_append_of_le_length fair.begun
  have log : (onNet (·.heard conn connection buffer) world).2.log =
      world.2.log ++ [.received connection.serial buffer] := rfl
  simp only [onDali, onNet, queued] at log ⊢
  refine ⟨?_, ?_, ?_, ?_, ?_, ?_, ?_⟩
  · rw [clients]
    simpa [Service.step, there] using serves.present
  · simpa [Service.step, there, Net.heard] using serves.arrived
  · rw [line, owners_next, owners_enqueued]
    have holds : Holds (world.2.heard conn connection buffer) = Holds world.2 := by
      funext owner ticket
      simp only [Holds, clients]
    rw [holds]
    exact List.rel_append serves.line (.cons here .nil)
  · simpa [Service.step, there, enqueued] using serves.outcomes
  · simpa [Service.step, there, enqueued, newTransaction, UsbDaliTransaction.key] using
      serves.frames
  · rw [log]
    simpa [Service.step, there] using serves.replies
  · intro serial
    rw [log]
    by_cases own : connection.serial = serial
    · subst own
      rw [requestsFrom_heard request]
      simpa [Service.step, there] using (serves.heard _).append
        (List.Sublist.refl [requestFrame buffer])
    · simpa [Service.step, there, own] using serves.heard serial

/-- The device once the active transaction was reported and released. -/
def reported (transaction : UsbDaliTransaction ConnPtr) (error : UsbDaliError) (frame : DaliFrame)
    (response status : Nat) (dali : UsbDali ConnPtr) : UsbDali ConnPtr :=
  let dali := dali.log (.reqCallback transaction error frame response status)
  { usbdaliTransactionFree dali.transaction dali with transaction := none }

/-- Every reply is one. -/
theorem isReply_replyFrame (error : UsbDaliError) (response : Nat) :
    isReply (replyFrame error response) = true := by
  -- The three frames have the three statuses of a reply.
  unfold replyFrame
  split
  · rfl
  · split <;> rfl

/-- A report takes the first ticket off the line. -/
theorem Serves.answer {world : World} {service : Service Nat DaliFrame Outcome}
    (serves : Serves world service) (alive : ActiveAlive world.1)
    {transaction : UsbDaliTransaction ConnPtr} (active : world.1.transaction = some transaction)
    (error : UsbDaliError) (frame : DaliFrame) (response status : Nat) {after : Net}
    (clients : clientAt after = clientAt world.2) (serials : after.serials = world.2.serials)
    (heard : ∀ serial, requestsFrom serial after.log = requestsFrom serial world.2.log)
    (told : replyLog after.log = replyLog world.2.log ++
      match transaction.arg.bind (clientAt world.2) with
      | none => []
      | some serial => [(serial, replyFrame error response)]) :
    Serves (reported transaction error frame response status world.1, after)
      (service.step (.answer (error, response))) := by
  have pending : owners world.1 = transaction.arg :: world.1.queue.map (·.arg) := by
    simp [owners, pendingRequests, active]
  have first := serves.line
  rw [pending] at first
  -- The active transaction holds the first ticket of the line.
  cases waiting : service.line with
  | nil =>
    rw [waiting] at first
    cases first
  | cons ticket rest =>
    rw [waiting, List.forall₂_cons] at first
    obtain ⟨holds, others⟩ := first
    -- One outcome more leaves one ticket less in the line.
    have tail : service.asked.drop (service.outcomes.length + 1) = rest := by
      have dropped := congrArg (List.drop 1) waiting
      rwa [Service.line, List.drop_drop, List.drop_one, List.tail_cons] at dropped
    -- The transaction is alive, so it is released and not released twice.
    have kept : reported transaction error frame response status world.1 =
        { world.1 with
          trace := world.1.trace ++ [.reqCallback transaction error frame response status]
          freed := world.1.freed ++ [transaction.id]
          transaction := none } := by
      simp [reported, usbdaliTransactionFree, UsbDali.log, active, alive transaction active]
    have holders : Holds after = Holds world.2 := by
      funext owner ticket
      simp only [Holds, clients]
    have step : service.step (.answer (error, response)) =
        { service with
          outcomes := service.outcomes ++ [(error, response)]
          told := if ticket.1 ∈ service.present then
            service.told ++ [(ticket.1, ticket.2, error, response)] else service.told } := by
      simp only [Service.step, waiting]
    rw [kept, step]
    refine ⟨?_, ?_, ?_, ?_, ?_, ?_, ?_⟩
    · rw [clients]
      exact serves.present
    · rw [serials]
      exact serves.arrived
    · rw [holders]
      simp only [Service.line, List.length_append, List.length_singleton, tail]
      simpa [owners, pendingRequests] using others
    · simpa using serves.outcomes
    · simpa using serves.frames
    · rw [told, serves.replies]
      -- Whoever the ticket belongs to is there exactly if it can still be told.
      cases arg : transaction.arg with
      | none =>
        rw [arg] at holds
        have gone : ticket.1 ∉ service.present := by
          rw [serves.present]
          rintro ⟨conn, there⟩
          exact holds conn there
        simp [gone]
      | some conn =>
        rw [arg] at holds
        have there : clientAt world.2 conn = some ticket.1 := holds
        have present := (serves.present ticket.1).mpr ⟨conn, there⟩
        simp [there, present]
    · intro serial
      rw [heard]
      exact serves.heard serial

/-- What happened to the program happened at the counter too, where these tickets were taken. -/
def Mirrored (service : Service Nat DaliFrame Outcome) (after : World)
    (taken : List (Nat × DaliFrame)) : Prop :=
  ∃ events, Serves after (run Service.step service events) ∧
    (run Service.step service events).asked = service.asked ++ taken

/-- Nothing need happen at the counter. -/
theorem Serves.mirrored {world : World} {service : Service Nat DaliFrame Outcome}
    (serves : Serves world service) : Mirrored service world [] :=
  ⟨[], serves, (List.append_nil _).symm⟩

/-- What happens after something else at the counter is part of what happened. -/
theorem Mirrored.after {service : Service Nat DaliFrame Outcome} {world : World}
    {taken : List (Nat × DaliFrame)} (event : ServiceEvent Nat DaliFrame Outcome)
    (untaken : (service.step event).asked = service.asked)
    (mirrored : Mirrored (service.step event) world taken) : Mirrored service world taken := by
  obtain ⟨events, serves, asked⟩ := mirrored
  exact ⟨event :: events, serves, asked.trans (by rw [untaken])⟩

/-- Writing something that is no reply leaves the counter as it is, or a client leaves. -/
theorem Serves.write {world : World} {service : Service Nat DaliFrame Outcome}
    (serves : Serves world service) (tidy : Tidy world) {conn : ConnPtr}
    (member : conn ∈ world.2.server.connections) {buffer : Bytes} (nonempty : buffer ≠ [])
    (other : isReply buffer = false) : Mirrored service (connectionReply conn buffer world) [] := by
  -- The write comes first, and only if it fails the client leaves.
  obtain ⟨connection, found⟩ := tidy.found member
  have flagged := flagged_answered found buffer
  have log : (world.2.answered conn connection buffer).log = world.2.log ++
      [.sent connection.serial buffer (world.2.writes world.2.written)] := rfl
  have written : Serves (world.1, world.2.answered conn connection buffer) service := by
    refine serves.flag flagged ?_ fun serial => ?_
    · simp [log, other]
    · simp [log]
  rw [connectionReply_eq found nonempty]
  split
  · exact written.mirrored
  · have there : (world.2.answered conn connection buffer).heap conn =
        some { connection with waiting := false } := Function.update_self ..
    exact Mirrored.after _ rfl (written.remove (tidy.flag flagged) there).mirrored

/-- A walk with a message from the bus is clients leaving at most. -/
theorem Serves.walk {address command : UInt8} {visits : List Visit} {world : World}
    {service : Service Nat DaliFrame Outcome} (serves : Serves world service) (tidy : Tidy world)
    (live : LiveVisits (broadcastFrame address command) world visits) :
    Mirrored service (visits.foldl (visit (broadcastFrame address command)) world) [] := by
  -- The events of each visit follow those of the visits before it.
  have nonempty : broadcastFrame address command ≠ [] := List.cons_ne_nil _ _
  induction visits generalizing world service with
  | nil => exact serves.mirrored
  | cons step rest ih =>
    cases step with
    | reply conn =>
      obtain ⟨member, later⟩ := live
      obtain ⟨events, after, asked⟩ := serves.write tidy member nonempty rfl
      obtain ⟨more, last, asked'⟩ := ih after (tidy.reply member nonempty) later
      refine ⟨events ++ more, ?_, ?_⟩
      · rw [run_append]
        exact last
      · rw [run_append, asked', asked, List.append_nil, List.append_nil]
    | stray conn =>
      refine ih (serves.congr rfl rfl rfl rfl rfl ?_ fun serial => ?_) (tidy.stray conn) live
      · simp [visit, onNet, Net.record]
      · simp [visit, onNet, Net.record]

/-- Whether its client is forgotten before or after, the active transaction is released. -/
theorem forgotten_reported {dali : UsbDali ConnPtr} (alive : ActiveAlive dali)
    {transaction : UsbDaliTransaction ConnPtr} (active : dali.transaction = some transaction)
    (conn : ConnPtr) (connection : Connection) (error : UsbDaliError) (frame : DaliFrame)
    (response status : Nat) :
    let noted := forgotten conn connection
      (dali.log (.reqCallback transaction error frame response status))
    { usbdaliTransactionFree noted.transaction noted with transaction := none } =
      forgotten conn connection (reported transaction error frame response status dali) := by
  -- Cancelling clears the argument of a transaction that is about to be released anyway.
  have fresh : transaction.id ∉ dali.freed := alive transaction active
  intro noted
  simp only [noted, forgotten]
  split
  · simp [usbdaliCancel_eq, cancelAll_eq, reported, usbdaliTransactionFree, UsbDali.log, active,
      fresh]
  · rfl

/-- An outcome takes no ticket. -/
theorem asked_answer (service : Service Nat DaliFrame Outcome) (outcome : Outcome) :
    (service.step (.answer outcome)).asked = service.asked := by
  simp only [Service.step]
  split <;> rfl

/-- The outcome of the active transaction is told to its client, which may leave then. -/
theorem Serves.finish {world : World} {service : Service Nat DaliFrame Outcome}
    (serves : Serves world service) (tidy : Tidy world) (alive : ActiveAlive world.1)
    {transaction : UsbDaliTransaction ConnPtr} (active : world.1.transaction = some transaction)
    (error : UsbDaliError) (frame : DaliFrame) (response status : Nat) :
    Mirrored service (onDali
      (fun dali => { usbdaliTransactionFree dali.transaction dali with transaction := none })
      (daliInbandHandler error response transaction.arg
        (onDali (·.log (.reqCallback transaction error frame response status)) world))) [] := by
  refine Mirrored.after (.answer (error, response)) (asked_answer ..) ?_
  unfold daliInbandHandler
  cases arg : transaction.arg with
  | none =>
    -- The client has left, and nobody is told.
    have answered : Serves (reported transaction error frame response status world.1, world.2)
        (service.step (.answer (error, response))) :=
      serves.answer alive active error frame response status rfl rfl (fun _ => rfl)
        (by simp [arg])
    exact answered.mirrored
  | some conn =>
    have owed : some conn ∈ owners world.1 := by simp [owners, pendingRequests, active, arg]
    obtain ⟨connection, found⟩ := tidy.found (tidy.bound.args conn owed)
    let noted : World := onDali (·.log (.reqCallback transaction error frame response status)) world
    have there : noted.2.heap conn = some connection := found
    have flagged := flagged_answered found (replyFrame error response)
    have log : (world.2.answered conn connection (replyFrame error response)).log =
        world.2.log ++ [.sent connection.serial (replyFrame error response)
          (world.2.writes world.2.written)] := rfl
    have answered : Serves (reported transaction error frame response status world.1,
        world.2.answered conn connection (replyFrame error response))
        (service.step (.answer (error, response))) := by
      refine serves.answer alive active error frame response status (clientAt_flag flagged) rfl
        (fun serial => by simp [log]) ?_
      simp [log, arg, clientAt, found, isReply_replyFrame]
    have reply := connectionReply_eq there (replyFrame_ne_nil error response)
    show Mirrored _ (onDali _ (connectionReply conn (replyFrame error response) noted)) []
    rw [reply]
    split
    · exact answered.mirrored
    · -- The write has failed, so the client is forgotten before its transaction is released.
      have tidied : Tidy (reported transaction error frame response status world.1,
          world.2.answered conn connection (replyFrame error response)) := by
        have queued : owners (reported transaction error frame response status world.1) =
            world.1.queue.map (·.arg) := owners_freed noted.1
        refine (tidy.flag flagged).device (fun owner member => ?_) (fun nobody => ?_)
        · rw [queued] at member
          simpa [owners, pendingRequests, active] using Or.inr (List.mem_map.mp member)
        · simp [owners, pendingRequests, active] at nobody
      have left := answered.remove tidied (Function.update_self ..)
      refine Mirrored.after (.leave connection.serial) rfl (Serves.mirrored ?_)
      have released := forgotten_reported alive active conn connection error frame response status
      exact left.device (congrArg owners released)
        (congrArg (fun dali => reportedOutcomes dali.trace) released)
        (congrArg (fun dali => acceptedRequests dali.trace) released)

/-- Whatever the device reports, the counter does it too. -/
theorem Serves.carryOut {world : World} {service : Service Nat DaliFrame Outcome}
    (serves : Serves world service) (broadcaster : Broadcaster) (tidy : Tidy world)
    (service' : InService world.1) (alive : ActiveAlive world.1) (report : Report) :
    Mirrored service (report.carryOut (serverHandlers broadcaster) world) [] := by
  -- One case for each kind of report; only a finished request is an outcome.
  cases report with
  | silent => exact serves.mirrored
  | broadcast error frame status =>
    simp only [Report.carryOut, callBcast, service'.bcast, if_true, serverHandlers]
    have noted : Tidy (onDali (fun dali => dali.log
        (.bcastCallback error frame status dali.bcastArg)) world) :=
      tidy.device_same (owners_congr rfl rfl)
    have same : Serves (onDali (fun dali => dali.log
        (.bcastCallback error frame status dali.bcastArg)) world) service :=
      serves.device (owners_congr rfl rfl) (by simp) (by simp)
    obtain ⟨address, command, visits, walk, live⟩ :=
      daliOutbandHandler_walk broadcaster error frame world.1.bcastArg noted.books.open_
    rw [walk]
    exact same.walk noted (live noted.registered.linked)
  | finished error frame response status =>
    cases active : world.1.transaction with
    | none =>
      simp only [Report.carryOut, finishTransaction, active]
      have same : Serves (onDali (·.log (.fault .nullTransaction)) world) service :=
        serves.device (owners_congr rfl rfl) (by simp) (by simp)
      exact same.mirrored
    | some transaction =>
      rw [carryOut_finished active alive service'.req]
      exact serves.finish tidy alive active error (frame.getD transaction.request) response status

/-- Whatever libusb does, the counter does it too. -/
theorem Serves.usbReady {world : World} {service : Service Nat DaliFrame Outcome}
    (serves : Serves world service) (sound : Sound world) (broadcaster : Broadcaster)
    (input : Input) : Mirrored service (usbdaliDispatchReady broadcaster input world) [] := by
  -- A notice is about descriptors, which have nothing to do with the clients.
  have noticed : ∀ after : World, Mirrored service after [] →
      Mirrored service (onNet (notify input.notice) after) [] := by
    rintro after ⟨events, done, asked⟩
    refine ⟨events, ?_, asked⟩
    cases input.notice with
    | none => exact done
    | some notice =>
      cases notice <;> exact done.congr rfl rfl rfl rfl rfl rfl fun _ => List.Sublist.refl _
  unfold usbdaliDispatchReady
  apply noticed
  cases input.completion with
  | none => exact serves.mirrored
  | some completion =>
    rcases libusbComplete_world broadcaster sound.usb completion with
      ⟨_, same⟩ | ⟨transfer, _, done⟩
    · dsimp only
      rw [same]
      exact serves.mirrored
    · dsimp only
      rw [done]
      obtain ⟨tidy, inService, alive⟩ := sound.retired transfer
      have retired : Serves (onDali (retire transfer) world) service :=
        serves.device (owners_congr rfl rfl) rfl rfl
      obtain ⟨events, reported, asked⟩ := retired.carryOut broadcaster tidy inService alive
        (transferReport world.1 transfer completion)
      exact ⟨events, reported.next completion.submit transfer.endpoint, asked⟩

/-- A connection that the server knows is removed as a client that leaves. -/
theorem Serves.removed {world : World} {service : Service Nat DaliFrame Outcome}
    (serves : Serves world service) (tidy : Tidy world) {conn : ConnPtr}
    (member : conn ∈ world.2.server.connections) :
    Mirrored service (serverConnectionRemove conn world) [] := by
  -- Each connection that the server knows belongs to a client that is present.
  obtain ⟨connection, found⟩ := tidy.found member
  rw [serverConnectionRemove_eq found]
  exact Mirrored.after (.leave connection.serial) rfl (serves.remove tidy found).mirrored

/-- A read takes a ticket at most, or the client leaves. -/
theorem Serves.read {world : World} {service : Service Nat DaliFrame Outcome}
    (serves : Serves world service) (fair : service.Fair) (tidy : Tidy world)
    (device : world.2.server.arg = some .usb) {conn : ConnPtr}
    (member : conn ∈ world.2.server.connections) (input : Input) :
    Mirrored service (connectionReady input conn world) (takes world input conn).toList := by
  -- Only a request for which there is room is a ticket; anything else is no event or an exit.
  obtain ⟨connection, found⟩ := tidy.found member
  rw [connectionReady_eq found, takes, found, tidy.books.framesize]
  cases input.buffer with
  | none => exact serves.removed tidy member
  | some buffer =>
    have heard : Serves (onNet (·.heard conn connection buffer) world) service := by
      refine serves.flag (flagged_heard found buffer) ?_ fun serial => ?_
      · simp [Net.heard]
      · simp [Net.heard]
    dsimp only
    rw [netFrameHandler_eq, device]
    by_cases request : isRequest buffer = true
    · simp only [request, isRequest_length request, if_true, if_false, true_and]
      by_cases room : world.1.queue.length < world.1.queueSize ∧ input.memory = true
      · rw [if_pos room]
        have there : connection.serial ∈ service.present :=
          (serves.present _).mpr ⟨conn, by simp [clientAt, found]⟩
        have asked := serves.ask fair found request room input.submit
        refine ⟨[.ask connection.serial (requestFrame buffer)], asked, ?_⟩
        simp [Service.step, there]
      · -- Nobody is told that the request has been dropped.
        rw [if_neg room]
        have refused : (usbdaliQueue input.memory input.submit (requestFrame buffer) (some conn)
            world.1).1 = world.1.log (.rejected (requestFrame buffer) .queueFull) := by
          rw [usbdaliQueue_eq, if_neg room]
        have dropped : Serves (world.1.log (.rejected (requestFrame buffer) .queueFull),
            world.2.heard conn connection buffer) service :=
          heard.device (owners_congr rfl rfl) (by simp [onNet]) (by simp [onNet])
        show Mirrored service ((usbdaliQueue input.memory input.submit (requestFrame buffer)
          (some conn) world.1).1, world.2.heard conn connection buffer) []
        rw [refused]
        exact dropped.mirrored
    · simp only [request, Bool.false_eq_true, false_and, if_false]
      split
      · exact serves.removed tidy member
      · exact heard.mirrored

/-- Accepting a connection is a client that arrives, at most. -/
theorem Serves.accept {world : World} {service : Service Nat DaliFrame Outcome}
    (serves : Serves world service) (fair : service.Fair) {input : Input}
    (possible : input.possible world.2 = true) :
    Mirrored service (onNet (serverListenerReady input) world) [] := by
  -- Only an accepted socket of the right family becomes a client.
  unfold serverListenerReady
  cases accepted : input.socket with
  | none => exact serves.mirrored
  | some socket =>
    obtain ⟨_, _, free⟩ := (Input.possible_spec possible).1 socket accepted
    by_cases inet : input.inet = true
    · simp only [inet, if_true]
      refine Mirrored.after (.arrive world.2.serials) ?_ (serves.open free fair socket).mirrored
      simp only [Service.step]
      split <;> rfl
    · simp only [inet, Bool.false_eq_true, if_false]
      exact serves.mirrored

/-- One step of the program is matched by events at the counter. -/
theorem Serves.step {world : World} {service : Service Nat DaliFrame Outcome}
    (serves : Serves world service) (fair : service.Fair) (sound : Sound world)
    (device : world.2.server.arg = some .usb) (broadcaster : Broadcaster) (event : SystemEvent) :
    Mirrored service (systemStep broadcaster world event) (asks world event).toList := by
  -- One case for each callback that can be due.
  cases event with
  | polled revents =>
    have same : Serves (systemStep broadcaster world (.polled revents)) service :=
      serves.congr rfl rfl rfl rfl rfl rfl fun _ => List.Sublist.refl _
    exact same.mirrored
  | row index input =>
    rw [systemStep_row, asks]
    by_cases possible : input.possible world.2 = true
    · rw [if_pos possible, if_pos possible]
      cases row : rowCall world.2 index with
      | none => exact serves.mirrored
      | some call =>
        have called : Sound (calling call world) := ⟨sound.usb, sound.tidy.calling call⟩
        have before : Serves (calling call world) service :=
          serves.congr rfl rfl rfl rfl rfl rfl fun _ => List.Sublist.refl _
        cases sound.tidy.registered.due row with
        | listenerReady registration =>
          exact before.accept fair possible
        | listenerError registration error => exact before.mirrored
        | ready registration conn member =>
          exact before.read fair called.tidy device member input
        | error registration conn error member =>
          have left := before.removed called.tidy member
          cases error <;> exact left
        | usbReady registration => exact before.usbReady called broadcaster input
        | usbError registration error => exact before.mirrored
        | ipc registration => exact before.mirrored
    · rw [if_neg possible, if_neg possible]
      exact serves.mirrored

/-- The counter has not opened when the program enters its event loop. -/
theorem serves_start (config : Config) : Serves (mainStart config) Service.blank := by
  -- Nobody is connected, and opening the device makes no request.
  refine ⟨?_, ?_, ?_, ?_, ?_, rfl, fun serial => List.Sublist.refl _⟩
  · intro serial
    simp [Service.blank, clientAt, mainStart, ipcRegister, serverOpen]
  · intro serial member
    cases member
  · rw [mainStart, owners_usbStart]
    exact .nil
  · show reportedOutcomes (usbdaliNext config.submit usbdaliNew).trace = []
    rw [reportedOutcomes_next]
    rfl
  · show (acceptedRequests (usbdaliNext config.submit usbdaliNew).trace).map Prod.snd = []
    rw [acceptedRequests_next]
    rfl

/-- Whatever the program has done, the counter has done it too, with the same tickets. -/
theorem serves_run (broadcaster : Broadcaster) {config : Config} (device : config.dryrun = false)
    (events : List SystemEvent) :
    ∃ service : Service Nat DaliFrame Outcome, service.Fair ∧
      Serves (run (systemStep broadcaster) (mainStart config) events) service ∧
      service.asked = outputs (systemStep broadcaster) asks (mainStart config) events := by
  -- The past is carried along, since the tickets are defined over it.
  let good : List SystemEvent → World → Prop := fun past world =>
    world = run (systemStep broadcaster) (mainStart config) past ∧
    ∃ service : Service Nat DaliFrame Outcome, service.Fair ∧ Serves world service ∧
      service.asked = outputs (systemStep broadcaster) asks (mainStart config) past
  have start : good [] (mainStart config) :=
    ⟨rfl, Service.blank, Service.fair_blank, serves_start config, rfl⟩
  refine (run_history start ?_ events).2
  rintro past world event ⟨rfl, service, fair, serves, asked⟩
  have usb : config.usb = some .usb := by simp [Config.usb, device]
  have sound := sound_run broadcaster config past
  obtain ⟨more, after, taken⟩ := serves.step fair sound
    ((device_run broadcaster config past).trans usb) broadcaster event
  refine ⟨by rw [run_append]; rfl, _, run_invariant (fun _ event fair => fair.step event) fair more,
    after, ?_⟩
  rw [taken, asked, outputs_append]
  simp [outputs]

/--
Clients are answered in the order in which they asked.

The requests taken from all clients reach the device in the order in which they were taken, and
their outcomes are told in this order, each to the client that has asked.
A client that is still connected has been told the outcome of every request of its own that has
one, and a client that has left was told those of its first requests.
No client is ever told the outcome of a request that another one made, even where its connection
has the address of an earlier one.
-/
theorem replies_in_order (broadcaster : Broadcaster) (config : Config)
    (device : config.dryrun = false) (events : List SystemEvent) :
    let world := run (systemStep broadcaster) (mainStart config) events
    let asked := outputs (systemStep broadcaster) asks (mainStart config) events
    let answers := List.zipWith (fun ticket outcome =>
      (ticket.1, replyFrame outcome.1 outcome.2)) asked (reportedOutcomes world.1.trace)
    (acceptedRequests world.1.trace).map Prod.snd = asked.map Prod.snd ∧
      (∀ serial, ((asked.filter (·.1 = serial)).map Prod.snd).Sublist
        (requestsFrom serial world.2.log)) ∧
      (replyLog world.2.log).Sublist answers ∧
      (∀ serial, (replyLog world.2.log).filter (·.1 = serial) <+:
        answers.filter (·.1 = serial)) ∧
      ∀ conn connection, world.2.heap conn = some connection →
        (replyLog world.2.log).filter (·.1 = connection.serial) =
          answers.filter (·.1 = connection.serial) := by
  -- What holds at the counter is translated back to the program.
  intro world asked answers
  obtain ⟨service, fair, serves, taken⟩ := serves_run broadcaster device events
  let reply : Nat × DaliFrame × Outcome → Nat × Bytes := fun entry =>
    (entry.1, replyFrame entry.2.2.1 entry.2.2.2)
  have replies : replyLog world.2.log = service.told.map reply := serves.replies
  have outcomes : reportedOutcomes world.1.trace = service.outcomes := serves.outcomes
  have same : answers = service.answered.map reply := by
    simp only [answers, asked, ← taken, outcomes, Service.answered, List.map_zipWith]
    rfl
  -- Replies are selected by the client of their tickets.
  have concerning : ∀ serial (entries : List (Nat × DaliFrame × Outcome)),
      (entries.map reply).filter (·.1 = serial) =
        (Service.concerning serial entries).map reply := by
    intro serial entries
    rw [List.filter_map]
    rfl
  rw [same, replies]
  refine ⟨?_, ?_, fair.ordered.map reply, fun serial => ?_, fun conn connection found => ?_⟩
  · simp only [asked, ← taken]
    exact serves.frames
  · simp only [asked, ← taken]
    exact serves.heard
  · rw [concerning, concerning]
    exact (fair.front serial).map reply
  · have present := (serves.present connection.serial).mpr ⟨conn, by simp [clientAt, world, found]⟩
    rw [concerning, concerning, fair.whole connection.serial present]

/-- A client asks twice, and the adapter answers the first of its requests. -/
def clientAsksTwice : List SystemEvent :=
  let completes transfer status received : SystemEvent :=
    .row 0 { calmInput with completion := some ⟨transfer, status, received, 0⟩ }
  clientConnects ++ [.row 3 clientAsks, .row 3 { clientAsks with buffer := some [2, 0, 3, 4] },
    completes 0 .cancelled [], completes 1 .completed [],
    completes 2 .completed [0x12, 0x72, 0, 0, 1, 7, 0, 0, 1]]

/-- The client is told the outcome of its first request, and the second one is pending. -/
theorem replies_in_order_twice :
    plainConfig.dryrun = false ∧
      outputs (systemStep serverBroadcaster) asks (mainStart plainConfig) clientAsksTwice =
        [(0, daliframeNew 1 2), (0, daliframeNew 3 4)] ∧
      (replyLog (run (systemStep serverBroadcaster) (mainStart plainConfig)
        clientAsksTwice).2.log).filter (·.1 = 0) = [(0, [2, 1, 7, 0])] := by
  have found : (run (systemStep serverBroadcaster) (mainStart plainConfig)
      clientAsksTwice).2.heap 0 = some ⟨0, 6, false, true, some .usb⟩ := by decide +kernel
  have told :=
    (replies_in_order serverBroadcaster plainConfig rfl clientAsksTwice).2.2.2.2 0 _ found
  refine ⟨rfl, by decide +kernel, told.trans ?_⟩
  decide +kernel

end Daliserver
