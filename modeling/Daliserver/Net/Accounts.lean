import Daliserver.Net.References

/-! The desk: what the server has read from each client, what it wrote back, and what it owes. -/

namespace Daliserver

/-- A frame with one of the three statuses that answer a request. -/
def isReply (frame : Bytes) : Bool :=
  frame.getD 1 0 == netStatusSuccess || frame.getD 1 0 == netStatusResponse ||
    frame.getD 1 0 == netStatusError

/-- The frame an effect read from a connection. -/
@[simp] def NetEffect.receivedFrom (serial : Nat) : NetEffect → Option Bytes
  | .received source frame => if source = serial then some frame else none
  | _ => none

/-- The frame an effect wrote to a connection. -/
@[simp] def NetEffect.sentTo (serial : Nat) : NetEffect → Option Bytes
  | .sent target frame _ => if target = serial then some frame else none
  | _ => none

/-- The frames read from a connection, oldest first. -/
def receivedFrames (serial : Nat) (log : List NetEffect) : List Bytes :=
  log.filterMap (·.receivedFrom serial)

/-- The frames written to a connection, oldest first. -/
def sentFrames (serial : Nat) (log : List NetEffect) : List Bytes :=
  log.filterMap (·.sentTo serial)

/-- The number of requests read from a connection. -/
def requestsRead (serial : Nat) (log : List NetEffect) : Nat :=
  (receivedFrames serial log).countP isRequest

/-- The number of replies written to a connection. -/
def repliesWritten (serial : Nat) (log : List NetEffect) : Nat :=
  (sentFrames serial log).countP isReply

/-- What there is to know about an open connection. -/
structure Account where
  requests : Nat
  replies : Nat
  waiting : Bool
deriving DecidableEq, Repr

/-- The account after a frame was read. -/
def Account.asked (frame : Bytes) (account : Account) : Account :=
  ⟨account.requests + if isRequest frame then 1 else 0, account.replies, true⟩

/-- The account after a frame was written. -/
def Account.told (frame : Bytes) (account : Account) : Account :=
  ⟨account.requests, account.replies + if isReply frame then 1 else 0, false⟩

/-- The accounts of all open connections, and how many requests of each are pending. -/
@[ext] structure Desk where
  accounts : ConnPtr → Option Account
  owed : ConnPtr → Nat

/-- A frame is read from a connection. -/
def Desk.heard (conn : ConnPtr) (frame : Bytes) (desk : Desk) : Desk :=
  { desk with
    accounts := Function.update desk.accounts conn ((desk.accounts conn).map (·.asked frame)) }

/-- A frame is written to a connection. -/
def Desk.answered (conn : ConnPtr) (frame : Bytes) (desk : Desk) : Desk :=
  { desk with
    accounts := Function.update desk.accounts conn ((desk.accounts conn).map (·.told frame)) }

/-- A request of a connection becomes pending. -/
def Desk.owe (conn : ConnPtr) (desk : Desk) : Desk :=
  { desk with owed := Function.update desk.owed conn (desk.owed conn + 1) }

/-- A request of a connection is no longer pending. -/
def Desk.settle (conn : ConnPtr) (desk : Desk) : Desk :=
  { desk with owed := Function.update desk.owed conn (desk.owed conn - 1) }

/-- A connection is opened, with nothing on its account. -/
def Desk.open (conn : ConnPtr) (desk : Desk) : Desk :=
  { desk with accounts := Function.update desk.accounts conn (some ⟨0, 0, false⟩) }

/-- A connection is closed, and nothing is owed to it any more. -/
def Desk.close (conn : ConnPtr) (desk : Desk) : Desk :=
  ⟨Function.update desk.accounts conn none, Function.update desk.owed conn 0⟩

/-- Two desks that differ at one connection at most. -/
def Desk.SameBut (conn : ConnPtr) (before after : Desk) : Prop :=
  ∀ other, other ≠ conn →
    after.accounts other = before.accounts other ∧ after.owed other = before.owed other

/-- Several changes at one connection are a change at that connection. -/
theorem Desk.SameBut.trans {conn : ConnPtr} {first second third : Desk}
    (one : first.SameBut conn second) (two : second.SameBut conn third) :
    first.SameBut conn third := by
  intro other apart
  obtain ⟨accounts, owed⟩ := one other apart
  obtain ⟨accounts', owed'⟩ := two other apart
  exact ⟨accounts'.trans accounts, owed'.trans owed⟩

theorem Desk.sameBut_heard (conn : ConnPtr) (frame : Bytes) (desk : Desk) :
    desk.SameBut conn (desk.heard conn frame) :=
  fun _ apart => ⟨Function.update_of_ne apart .., rfl⟩

theorem Desk.sameBut_answered (conn : ConnPtr) (frame : Bytes) (desk : Desk) :
    desk.SameBut conn (desk.answered conn frame) :=
  fun _ apart => ⟨Function.update_of_ne apart .., rfl⟩

theorem Desk.sameBut_owe (conn : ConnPtr) (desk : Desk) : desk.SameBut conn (desk.owe conn) :=
  fun _ apart => ⟨rfl, Function.update_of_ne apart ..⟩

theorem Desk.sameBut_settle (conn : ConnPtr) (desk : Desk) :
    desk.SameBut conn (desk.settle conn) :=
  fun _ apart => ⟨rfl, Function.update_of_ne apart ..⟩

theorem Desk.sameBut_open (conn : ConnPtr) (desk : Desk) : desk.SameBut conn (desk.open conn) :=
  fun _ apart => ⟨Function.update_of_ne apart .., rfl⟩

theorem Desk.sameBut_close (conn : ConnPtr) (desk : Desk) : desk.SameBut conn (desk.close conn) :=
  fun _ apart => ⟨Function.update_of_ne apart .., Function.update_of_ne apart ..⟩

/-- A fact about every open connection and what is owed to it. -/
def Desk.Each (fact : Account → Nat → Prop) (desk : Desk) : Prop :=
  ∀ conn account, desk.accounts conn = some account → fact account (desk.owed conn)

/-- After a change at one connection, only the fact about that one is in question. -/
theorem Desk.Each.change_iff {fact : Account → Nat → Prop} {before after : Desk}
    (each : before.Each fact) {conn : ConnPtr} (change : before.SameBut conn after) :
    after.Each fact ↔
      ∀ account, after.accounts conn = some account → fact account (after.owed conn) := by
  -- All other accounts are as before, where the fact is known.
  refine ⟨fun all => all conn, fun own other account found => ?_⟩
  by_cases same : other = conn
  · subst same
    exact own account found
  · obtain ⟨accounts, owed⟩ := change other same
    rw [accounts] at found
    rw [owed]
    exact each other account found

/-- Nothing is said about a connection that is closed. -/
theorem Desk.Each.close {fact : Account → Nat → Prop} {desk : Desk} (each : desk.Each fact)
    (conn : ConnPtr) : (desk.close conn).Each fact := by
  -- A closed account has nothing to be judged.
  refine (each.change_iff (Desk.sameBut_close conn desk)).mpr fun account found => ?_
  simp [Desk.close] at found

/-- What is true of a blank account is true of a connection that is opened. -/
theorem Desk.Each.open {fact : Account → Nat → Prop} {desk : Desk} (each : desk.Each fact)
    {conn : ConnPtr} (nothing : desk.owed conn = 0) (blank : fact ⟨0, 0, false⟩ 0) :
    (desk.open conn).Each fact := by
  -- Nothing is owed to an address that was free.
  refine (each.change_iff (Desk.sameBut_open conn desk)).mpr fun account found => ?_
  simp only [Desk.open, Function.update_self, Option.some.injEq] at found
  rw [← found]
  exact nothing ▸ blank

/-- Reading a frame puts the fact about its connection in question. -/
theorem Desk.Each.heard_iff {fact : Account → Nat → Prop} {desk : Desk} (each : desk.Each fact)
    {conn : ConnPtr} {account : Account} (found : desk.accounts conn = some account)
    (frame : Bytes) :
    (desk.heard conn frame).Each fact ↔ fact (account.asked frame) (desk.owed conn) := by
  rw [each.change_iff (Desk.sameBut_heard conn frame desk)]
  simp [Desk.heard, found]

/-- Reading a frame that becomes pending does so too. -/
theorem Desk.Each.taken_iff {fact : Account → Nat → Prop} {desk : Desk} (each : desk.Each fact)
    {conn : ConnPtr} {account : Account} (found : desk.accounts conn = some account)
    (frame : Bytes) :
    ((desk.heard conn frame).owe conn).Each fact ↔
      fact (account.asked frame) (desk.owed conn + 1) := by
  rw [each.change_iff ((Desk.sameBut_heard conn frame desk).trans (Desk.sameBut_owe conn _))]
  simp [Desk.heard, Desk.owe, found]

/-- Reading a frame that is answered at once does so too. -/
theorem Desk.Each.echoed_iff {fact : Account → Nat → Prop} {desk : Desk} (each : desk.Each fact)
    {conn : ConnPtr} {account : Account} (found : desk.accounts conn = some account)
    (frame reply : Bytes) :
    ((desk.heard conn frame).answered conn reply).Each fact ↔
      fact ((account.asked frame).told reply) (desk.owed conn) := by
  rw [each.change_iff ((Desk.sameBut_heard conn frame desk).trans
    (Desk.sameBut_answered conn reply _))]
  simp [Desk.heard, Desk.answered, found]

/-- Writing a frame puts the fact about its connection in question. -/
theorem Desk.Each.answered_iff {fact : Account → Nat → Prop} {desk : Desk}
    (each : desk.Each fact) {conn : ConnPtr} {account : Account}
    (found : desk.accounts conn = some account) (frame : Bytes) :
    (desk.answered conn frame).Each fact ↔ fact (account.told frame) (desk.owed conn) := by
  rw [each.change_iff (Desk.sameBut_answered conn frame desk)]
  simp [Desk.answered, found]

/-- Writing the reply to a pending request does so too. -/
theorem Desk.Each.settled_iff {fact : Account → Nat → Prop} {desk : Desk}
    (each : desk.Each fact) {conn : ConnPtr} {account : Account}
    (found : desk.accounts conn = some account) (frame : Bytes) :
    ((desk.answered conn frame).settle conn).Each fact ↔
      fact (account.told frame) (desk.owed conn - 1) := by
  rw [each.change_iff ((Desk.sameBut_answered conn frame desk).trans
    (Desk.sameBut_settle conn _))]
  simp [Desk.answered, Desk.settle, found]

/-- The account of a connection. -/
def accountOf (net : Net) (conn : ConnPtr) : Option Account :=
  (net.heap conn).map fun connection =>
    -- Counts are taken over the serial, which is never used for another connection.
    ⟨requestsRead connection.serial net.log, repliesWritten connection.serial net.log,
      connection.waiting⟩

/-- The desk of the program. -/
def deskOf (world : World) : Desk :=
  ⟨accountOf world.2, fun conn => (owners world.1).count (some conn)⟩

/-- The desk depends on these parts of the state only. -/
theorem deskOf_congr {before after : World} (heap : after.2.heap = before.2.heap)
    (log : after.2.log = before.2.log) (same : owners after.1 = owners before.1) :
    deskOf after = deskOf before := by
  -- The desk reads the heap, the log and the owners.
  have accounts : accountOf after.2 = accountOf before.2 := by
    funext conn
    rw [accountOf, accountOf, heap, log]
  rw [deskOf, deskOf, accounts, same]

@[simp] theorem requestsRead_concat (serial : Nat) (log : List NetEffect) (effect : NetEffect) :
    requestsRead serial (log ++ [effect]) =
      requestsRead serial log + (effect.receivedFrom serial).toList.countP isRequest := by
  rw [requestsRead, receivedFrames, filterMap_concat, List.countP_append]
  rfl

@[simp] theorem repliesWritten_concat (serial : Nat) (log : List NetEffect)
    (effect : NetEffect) :
    repliesWritten serial (log ++ [effect]) =
      repliesWritten serial log + (effect.sentTo serial).toList.countP isReply := by
  rw [repliesWritten, sentFrames, filterMap_concat, List.countP_append]
  rfl

/-- A connection the server knows has an account. -/
theorem Tidy.account {world : World} (tidy : Tidy world) {conn : ConnPtr}
    (member : conn ∈ world.2.server.connections) :
    ∃ account, (deskOf world).accounts conn = some account := by
  obtain ⟨connection, found⟩ := tidy.found member
  exact ⟨_, congrArg (Option.map _) found⟩

/-- What is not about a connection is not a frame of it. -/
theorem NetEffect.no_frame {effect : NetEffect} {serial : Nat}
    (other : effect.subject ≠ some serial) :
    effect.receivedFrom serial = none ∧ effect.sentTo serial = none := by
  -- Frames are logged under the serial of their connection.
  cases effect <;> simp_all

/-- A number that no connection had yet has nothing on record. -/
theorem Books.blank {net : Net} (books : Books net) :
    requestsRead net.serials net.log = 0 ∧ repliesWritten net.serials net.log = 0 := by
  -- Every effect is about a smaller number, so the selections keep none of them.
  have nothing : ∀ effect ∈ net.log, effect.receivedFrom net.serials = none ∧
      effect.sentTo net.serials = none := by
    intro effect member
    refine NetEffect.no_frame fun named => ?_
    exact Nat.lt_irrefl _ (books.mentioned effect member _ named)
  have received : receivedFrames net.serials net.log = [] :=
    List.filterMap_eq_nil_iff.mpr fun effect member => (nothing effect member).1
  have sent : sentFrames net.serials net.log = [] :=
    List.filterMap_eq_nil_iff.mpr fun effect member => (nothing effect member).2
  rw [requestsRead, repliesWritten, received, sent]
  exact ⟨rfl, rfl⟩

/-- A change of one connection, noted in the log, leaves the accounts of all others alone. -/
theorem accountOf_other {before after : Net} (books : Books before) {conn other : ConnPtr}
    {connection : Connection} {effect : NetEffect}
    (found : before.heap conn = some connection) (apart : other ≠ conn)
    (same : after.heap other = before.heap other) (log : after.log = before.log ++ [effect])
    (subject : effect.subject = some connection.serial) :
    accountOf after other = accountOf before other := by
  rw [accountOf, accountOf, same, log]
  cases there : before.heap other with
  | none => rfl
  | some value =>
    -- The effect is about another number than that of the other connection.
    have differ : value.serial ≠ connection.serial := fun alike =>
      apart (books.distinct other conn value connection there found alike)
    have elsewhere : effect.subject ≠ some value.serial := by
      rw [subject]
      exact fun alike => differ (Option.some.inj alike).symm
    obtain ⟨unread, unsent⟩ := NetEffect.no_frame elsewhere
    simp only [Option.map_some, requestsRead_concat, repliesWritten_concat, unread, unsent]
    rfl

/-- A fault is on the log, but it is no frame of anyone. -/
theorem deskOf_record (fault : NetFault) (world : World) :
    deskOf (onNet (·.record (.fault fault)) world) = deskOf world := by
  -- A fault is neither a frame read nor a frame written.
  refine Desk.ext (funext fun conn => ?_) rfl
  simp [deskOf, accountOf, onNet, Net.record]

/-- Reading a frame goes on the account of its connection. -/
theorem deskOf_heard {world : World} (tidy : Tidy world) {conn : ConnPtr}
    {connection : Connection} (found : world.2.heap conn = some connection) (buffer : Bytes) :
    deskOf (onNet (·.heard conn connection buffer) world) =
      (deskOf world).heard conn buffer := by
  -- The own account counts the frame, and other serials differ from the logged one.
  refine Desk.ext (funext fun other => ?_) rfl
  by_cases same : other = conn
  · subst same
    simp [deskOf, Desk.heard, accountOf, onNet, Net.heard, found, Account.asked,
      List.countP_singleton]
  · simp only [Desk.heard, Function.update_of_ne same]
    exact accountOf_other tidy.books found same (Function.update_of_ne same ..) rfl rfl

/-- Writing a frame goes on the account of its connection. -/
theorem deskOf_answered {world : World} (tidy : Tidy world) {conn : ConnPtr}
    {connection : Connection} (found : world.2.heap conn = some connection) (buffer : Bytes) :
    deskOf (onNet (·.answered conn connection buffer) world) =
      (deskOf world).answered conn buffer := by
  -- As for reading, with the frame counted as written.
  refine Desk.ext (funext fun other => ?_) rfl
  by_cases same : other = conn
  · subst same
    simp [deskOf, Desk.answered, accountOf, onNet, Net.answered, found, Account.told,
      List.countP_singleton]
  · simp only [Desk.answered, Function.update_of_ne same]
    exact accountOf_other tidy.books found same (Function.update_of_ne same ..) rfl rfl

/-- Removing a connection closes its account. -/
theorem deskOf_removed {world : World} (tidy : Tidy world) {conn : ConnPtr}
    {connection : Connection} (found : world.2.heap conn = some connection) :
    deskOf (forgotten conn connection world.1, world.2.without conn connection) =
      (deskOf world).close conn := by
  have removed := tidy.remove found
  refine Desk.ext (funext fun other => ?_) (funext fun other => ?_)
  · by_cases same : other = conn
    · subst same
      simp [deskOf, Desk.close, accountOf, Net.without]
    · simp only [Desk.close, Function.update_of_ne same]
      exact accountOf_other tidy.books found same (Function.update_of_ne same ..) rfl rfl
  · by_cases same : other = conn
    · subst same
      simp only [Desk.close, Function.update_self]
      -- What is still owed to someone is owed to a connection that the server knows.
      refine List.count_eq_zero.mpr fun owed => ?_
      exact List.Nodup.not_mem_erase tidy.registered.linked.distinct (removed.bound.args other owed)
    · simp only [Desk.close, Function.update_of_ne same, deskOf]
      unfold forgotten
      split
      · exact count_owners_cancel same world.1
      · rfl

/-- Removing a connection the server knows closes its account. -/
theorem deskOf_remove {world : World} (tidy : Tidy world) {conn : ConnPtr}
    (member : conn ∈ world.2.server.connections) :
    deskOf (serverConnectionRemove conn world) = (deskOf world).close conn := by
  obtain ⟨connection, found⟩ := tidy.found member
  rw [serverConnectionRemove_eq found]
  exact deskOf_removed tidy found

/-- A connection that does not take its reply is closed. -/
theorem deskOf_reply {world : World} (tidy : Tidy world) {conn : ConnPtr}
    (member : conn ∈ world.2.server.connections) {buffer : Bytes} (nonempty : buffer ≠ []) :
    deskOf (connectionReply conn buffer world) =
      if world.2.writable then (deskOf world).answered conn buffer
      else (deskOf world).close conn := by
  -- A failed write has lowered the flag and logged the frame before the connection is freed.
  obtain ⟨connection, found⟩ := tidy.found member
  rw [connectionReply_eq found nonempty]
  split
  · exact deskOf_answered tidy found buffer
  · have flagged := flagged_answered found buffer
    have there : (world.2.answered conn connection buffer).heap conn =
        some { connection with waiting := false } := Function.update_self ..
    have closed := deskOf_removed (tidy.flag flagged) there
    have noted : deskOf (world.1, world.2.answered conn connection buffer) = _ :=
      deskOf_answered tidy found buffer
    apply closed.trans
    rw [noted]
    simp [Desk.close, Desk.answered]

/-- A new connection has a blank account. -/
theorem deskOf_open {world : World} (tidy : Tidy world) {pointer : ConnPtr}
    (free : world.2.heap pointer = none) (socket : Int) :
    deskOf (onNet (fun net => (connectionNew pointer socket net).withConnections
      (· ++ [pointer])) world) = (deskOf world).open pointer := by
  obtain ⟨unread, unsent⟩ := tidy.books.blank
  refine Desk.ext (funext fun other => ?_) rfl
  by_cases same : other = pointer
  · subst same
    simp [deskOf, Desk.open, accountOf, onNet, Net.withConnections, connectionNew, unread, unsent]
  · -- The log only gains a note that is no frame of anyone.
    simp only [Desk.open, Function.update_of_ne same]
    simp [deskOf, accountOf, onNet, Net.withConnections, connectionNew, same]

/-- A request becomes pending exactly if there is room and memory for it. -/
theorem deskOf_queue (world : World) (memory : Bool) (submit : Int) (frame : DaliFrame)
    (conn : ConnPtr) :
    deskOf (onDali (fun dali => (usbdaliQueue memory submit frame (some conn) dali).1) world) =
      if world.1.queue.length < world.1.queueSize ∧ memory = true then (deskOf world).owe conn
      else deskOf world := by
  -- Acceptance adds the connection to the owners once.
  have owed := owners_queue memory submit frame (some conn) world.1
  split
  · rename_i accepted
    rw [if_pos accepted] at owed
    refine Desk.ext rfl (funext fun other => ?_)
    simp only [deskOf, onDali, owed, List.count_append, Desk.owe]
    by_cases same : other = conn
    · subst same
      simp
    · have apart : ¬ conn = other := fun alike => same alike.symm
      simp [Function.update_of_ne same, apart]
  · rename_i rejected
    rw [if_neg rejected] at owed
    exact deskOf_congr rfl rfl owed

/-- The desk after a read. -/
def Desk.read (world : World) (input : Input) (conn : ConnPtr) (desk : Desk) : Desk :=
  match input.buffer with
  | none => desk.close conn
  | some buffer =>
    if buffer.length < defaultNetFramesize then desk.close conn
    else if isRequest buffer then
      if world.2.server.arg = none then
        if world.2.writable then
          (desk.heard conn buffer).answered conn [defaultNetProtocol, netStatusResponse, 0, 0]
        else desk.close conn
      else if world.1.queue.length < world.1.queueSize ∧ input.memory = true then
        (desk.heard conn buffer).owe conn
      -- Nobody is told that the request has been dropped.
      else desk.heard conn buffer
    else desk.heard conn buffer

/-- What a read does to the desk. -/
theorem deskOf_read {world : World} (tidy : Tidy world) {conn : ConnPtr}
    (member : conn ∈ world.2.server.connections) (input : Input) :
    deskOf (connectionReady input conn world) = (deskOf world).read world input conn := by
  obtain ⟨connection, found⟩ := tidy.found member
  rw [connectionReady_eq found, Desk.read, tidy.books.framesize]
  cases input.buffer with
  | none => exact deskOf_remove tidy member
  | some buffer =>
    dsimp only
    by_cases short : buffer.length < defaultNetFramesize
    · rw [if_pos short, if_pos short]
      exact deskOf_remove tidy member
    · rw [if_neg short, if_neg short]
      have heard := deskOf_heard tidy found buffer
      have after : Tidy (onNet (·.heard conn connection buffer) world) :=
        tidy.flag (flagged_heard found buffer)
      rw [netFrameHandler_eq]
      by_cases request : isRequest buffer = true
      · rw [if_pos request, if_pos request]
        cases device : world.2.server.arg with
        | none =>
          simp only [if_true]
          rw [deskOf_reply after member (by simp), heard]
          -- Reading has no influence on whether the reply can be written.
          have writable : (onNet (·.heard conn connection buffer) world).2.writable =
              world.2.writable := rfl
          rw [writable]
          simp [Desk.close, Desk.heard]
        | some pointer =>
          cases pointer
          simp only [reduceCtorEq, if_false]
          rw [deskOf_queue, heard]
          rfl
      · rw [if_neg request, if_neg request]
        exact heard

/-- Deciding what to do next is nothing the desk would notice. -/
theorem deskOf_next (submit : Int) (endpoint : Endpoint) (world : World) :
    deskOf (onDali (fun dali => usbdaliNext submit (clearSlot endpoint dali)) world) =
      deskOf world := by
  -- Scheduling moves requests without changing whose they are.
  refine deskOf_congr rfl rfl ?_
  rw [onDali, owners_next]
  cases endpoint <;> exact owners_congr rfl rfl

/-- Releasing the active transaction settles what was owed for it. -/
theorem deskOf_freed {world : World} {transaction : UsbDaliTransaction ConnPtr}
    (active : world.1.transaction = some transaction) :
    deskOf (onDali (fun dali =>
        { usbdaliTransactionFree dali.transaction dali with transaction := none }) world) =
      match transaction.arg with
      -- A cancelled request was owed to nobody.
      | none => deskOf world
      | some conn => (deskOf world).settle conn := by
  -- The active request is the first of the pending ones, and its owner is owed one less.
  have before : owners world.1 = transaction.arg :: world.1.queue.map (·.arg) := by
    simp [owners, pendingRequests, active]
  have after := owners_freed world.1
  cases arg : transaction.arg with
  | none =>
    refine Desk.ext rfl (funext fun other => ?_)
    simp [deskOf, onDali, after, before, arg]
  | some conn =>
    refine Desk.ext rfl (funext fun other => ?_)
    simp only [deskOf, onDali, after, before, arg, Desk.settle]
    by_cases same : other = conn
    · subst same
      simp
    · have apart : ¬ conn = other := fun alike => same alike.symm
      simp [Function.update_of_ne same, apart]

/-- The desk after the active transaction was reported. -/
def Desk.finish (world : World) (error : UsbDaliError) (response : Nat) (desk : Desk) : Desk :=
  match world.1.transaction.bind (·.arg) with
  -- Nobody is waiting for the outcome any more.
  | none => desk
  | some conn =>
    if world.2.writable then (desk.answered conn (replyFrame error response)).settle conn
    -- A reply that cannot be written costs the client its connection.
    else desk.close conn

/-- No reply is empty. -/
theorem replyFrame_ne_nil (error : UsbDaliError) (response : Nat) :
    replyFrame error response ≠ [] := by
  unfold replyFrame
  split
  · simp
  · split <;> simp

/-- Forgetting the connection that the active transaction belongs to clears its argument. -/
theorem Tidy.forgotten_active {world : World} (tidy : Tidy world) {conn : ConnPtr}
    {connection : Connection} (found : world.2.heap conn = some connection)
    {transaction : UsbDaliTransaction ConnPtr} (active : world.1.transaction = some transaction)
    (own : transaction.arg = some conn) :
    (forgotten conn connection world.1).transaction = some { transaction with arg := none } := by
  obtain ⟨installed, arg⟩ := tidy.books.destroy conn connection found
  -- A request is pending, so there is a device that can be told.
  have device : world.2.server.arg ≠ none := by
    intro dry
    have nobody := tidy.bound.dry dry
    simp [owners, pendingRequests, active] at nobody
  unfold forgotten
  rw [if_pos ⟨installed, by rwa [arg]⟩]
  simp [usbdaliCancel, active, clearArg, own]

/-- What the report of the active transaction does to the desk. -/
theorem deskOf_finished (broadcaster : Broadcaster) {world : World} (tidy : Tidy world)
    (service : InService world.1) (alive : ActiveAlive world.1) (error : UsbDaliError)
    (frame : Option DaliFrame) (response status : Nat) :
    deskOf ((Report.finished error frame response status).carryOut (serverHandlers broadcaster)
      world) = (deskOf world).finish world error response := by
  unfold Desk.finish
  cases active : world.1.transaction with
  | none =>
    simp only [Report.carryOut, finishTransaction, active, Option.bind_none]
    exact deskOf_congr rfl rfl (owners_congr rfl rfl)
  | some transaction =>
    rw [carryOut_finished active alive service.req]
    simp only [Option.bind_some]
    -- The report goes on the trace of the device, which the desk does not look at.
    let noted : World := onDali (·.log (.reqCallback transaction error
      (frame.getD transaction.request) response status)) world
    have calm : Tidy noted := tidy.device_same (owners_congr rfl rfl)
    have blank : deskOf noted = deskOf world := deskOf_congr rfl rfl (owners_congr rfl rfl)
    have there : noted.1.transaction = some transaction := active
    cases arg : transaction.arg with
    | none =>
      have freed := deskOf_freed there
      rw [arg, blank] at freed
      exact freed
    | some conn =>
      have owed : some conn ∈ owners world.1 := by simp [owners, pendingRequests, active, arg]
      have member := tidy.bound.args conn owed
      obtain ⟨connection, found⟩ := tidy.found member
      have told := deskOf_reply calm member (replyFrame_ne_nil error response)
      rw [blank] at told
      have same : noted.2.writable = world.2.writable := rfl
      rw [same] at told
      have alive' : noted.2.heap conn = some connection := found
      have reply := connectionReply_eq alive' (replyFrame_ne_nil error response)
      rw [same] at reply
      show deskOf (onDali _ (connectionReply conn (replyFrame error response) noted)) = _
      by_cases taken : world.2.writable = true
      · rw [if_pos taken] at told reply
        -- The device has not changed, so the released transaction is the one that was active.
        have slot : (connectionReply conn (replyFrame error response) noted).1.transaction =
            some transaction := by rw [reply]; exact active
        rw [deskOf_freed slot, arg, told]
        exact (if_pos taken).symm
      · rw [if_neg taken] at told reply
        have slot : (connectionReply conn (replyFrame error response) noted).1.transaction =
            some { transaction with arg := none } := by
          rw [reply]
          exact calm.forgotten_active found there arg
        rw [deskOf_freed slot, told]
        exact (if_neg taken).symm

/-- A message from the bus reaches the handler while nobody's account has changed. -/
theorem carryOut_broadcast (broadcaster : Broadcaster) {world : World} (tidy : Tidy world)
    (service : InService world.1) (error : UsbDaliError) (frame : Option DaliFrame)
    (status : Nat) :
    ∃ arg, ∃ noted : World, Tidy noted ∧ deskOf noted = deskOf world ∧ noted.2 = world.2 ∧
      (Report.broadcast error frame status).carryOut (serverHandlers broadcaster) world =
        daliOutbandHandler broadcaster.send error frame arg noted := by
  -- Logging the callback is invisible to the desk and to the server.
  refine ⟨world.1.bcastArg, onDali (fun dali => dali.log
    (.bcastCallback error frame status dali.bcastArg)) world,
    tidy.device_same (owners_congr rfl rfl), deskOf_congr rfl rfl (owners_congr rfl rfl), rfl, ?_⟩
  simp only [Report.carryOut, callBcast, service.bcast, if_true, serverHandlers]

/-- A completion is a report to the desk and nothing else. -/
theorem deskOf_complete (broadcaster : Broadcaster) {world : World} (sound : Sound world)
    {completion : Completion} {transfer : Transfer}
    (held : world.1.context.inflight.find? (·.id = completion.transfer) = some transfer) :
    deskOf (libusbComplete (serverHandlers broadcaster) completion world) =
      deskOf ((transferReport world.1 transfer completion).carryOut (serverHandlers broadcaster)
        (onDali (retire transfer) world)) := by
  -- After the report only scheduling follows.
  rw [sound.usb.libusbComplete_held held]
  exact deskOf_next ..

/-- A notice of libusb is none of the desk's business. -/
theorem deskOf_notify (notice : Option PollNotice) (world : World) :
    deskOf (onNet (notify notice) world) = deskOf world := by
  -- Descriptors appear in no account.
  cases notice with
  | none => rfl
  | some notice => cases notice <;> exact deskOf_congr rfl rfl rfl

/-- Only the report of a completed transfer can break a fact about every connection. -/
theorem usbReady_each_iff {fact : Account → Nat → Prop} (broadcaster : Broadcaster)
    {world : World} (sound : Sound world) (each : (deskOf world).Each fact) (input : Input) :
    (deskOf (usbdaliDispatchReady broadcaster input world)).Each fact ↔
      ∀ completion transfer, input.completion = some completion →
        world.1.context.inflight.find? (·.id = completion.transfer) = some transfer →
        (deskOf ((transferReport world.1 transfer completion).carryOut
          (serverHandlers broadcaster) (onDali (retire transfer) world))).Each fact := by
  -- Without a completion, or for a transfer that is not in flight, nothing is reported.
  unfold usbdaliDispatchReady
  rw [deskOf_notify]
  cases input.completion with
  | none => exact iff_of_true each fun _ _ named => by cases named
  | some completion =>
    dsimp only
    cases held : world.1.context.inflight.find? (·.id = completion.transfer) with
    | none =>
      simp only [libusbComplete, held]
      refine iff_of_true each fun other transfer named inflight => ?_
      rw [← Option.some.inj named, held] at inflight
      cases inflight
    | some transfer =>
      rw [deskOf_complete broadcaster sound held]
      constructor
      · intro reported other transfer' named inflight
        obtain rfl := Option.some.inj named
        rw [held] at inflight
        obtain rfl := Option.some.inj inflight
        exact reported
      · exact fun all => all completion transfer rfl held

/-- The device reports a completion once the transfer is no longer in flight. -/
theorem Sound.retired {world : World} (sound : Sound world) (transfer : Transfer) :
    Tidy (onDali (retire transfer) world) ∧
      InService (onDali (retire transfer) world).1 ∧
      ActiveAlive (onDali (retire transfer) world).1 := by
  have service := sound.usb.coherent.service
  exact ⟨sound.tidy.device_same (owners_congr rfl rfl),
    ⟨service.req, service.bcast, service.open_⟩, sound.usb.ledger.activeAlive⟩

/-- A connection that the server does not know is owed nothing. -/
theorem Tidy.owed_eq_zero {world : World} (tidy : Tidy world) {conn : ConnPtr}
    (free : world.2.heap conn = none) : (deskOf world).owed conn = 0 := by
  -- Owners are listed connections, and those are alive.
  refine List.count_eq_zero.mpr fun owed => ?_
  exact tidy.registered.linked.alive conn (tidy.bound.args conn owed) free

/-- Accepting a connection opens an account at most. -/
theorem Desk.Each.accept {fact : Account → Nat → Prop} {world : World} (tidy : Tidy world)
    (each : (deskOf world).Each fact) (blank : fact ⟨0, 0, false⟩ 0) {input : Input}
    (possible : input.possible world.2 = true) :
    (deskOf (onNet (serverListenerReady input) world)).Each fact := by
  -- Only a connection of the right family opens an account.
  unfold serverListenerReady
  cases accepted : input.socket with
  | none => exact each
  | some socket =>
    obtain ⟨_, _, free⟩ := (Input.possible_spec possible).1 socket accepted
    by_cases inet : input.inet = true
    · simp only [inet, if_true]
      rw [deskOf_open tidy free socket]
      exact each.open (tidy.owed_eq_zero free) blank
    · simp only [inet, Bool.false_eq_true, if_false]
      exact each

/-- A condition on the reads and on the reports of the device among the steps of the program. -/
def RowMeets (reads : World → Input → ConnPtr → Prop) (reports : World → Input → Prop)
    (world : World) : SystemEvent → Prop
  | .polled _ => True
  | .row index input =>
    input.possible world.2 = true →
      match rowCall world.2 index with
      -- Only reads and device events can upset an account.
      | some ⟨_, .connectionReady, some (.connection conn), _⟩ => reads world input conn
      | some ⟨_, .usbdaliDispatchReady, some .usb, _⟩ => reports world input
      | _ => True

/--
Only reads and reports of the device can break a fact about every connection.

All other steps open or close a connection, or they do nothing that the desk would notice.
-/
theorem step_each_iff {fact : Account → Nat → Prop} {broadcaster : Broadcaster}
    {reads : World → Input → ConnPtr → Prop} {reports : World → Input → Prop}
    (blank : fact ⟨0, 0, false⟩ 0)
    (reading : ∀ world input conn, Sound world → (deskOf world).Each fact →
      conn ∈ world.2.server.connections →
      (((deskOf world).read world input conn).Each fact ↔ reads world input conn))
    (reporting : ∀ world input, Sound world → (deskOf world).Each fact →
      ((deskOf (usbdaliDispatchReady broadcaster input world)).Each fact ↔ reports world input))
    (readsBlind : ∀ call world input conn,
      reads (calling call world) input conn ↔ reads world input conn)
    (reportsBlind : ∀ call world input, reports (calling call world) input ↔ reports world input)
    {world : World} (sound : Sound world) (each : (deskOf world).Each fact)
    (event : SystemEvent) :
    (deskOf (systemStep broadcaster world event)).Each fact ↔
      RowMeets reads reports world event := by
  cases event with
  | polled revents => exact iff_of_true each trivial
  | row index input =>
    rw [systemStep_row, RowMeets]
    by_cases possible : input.possible world.2 = true
    · simp only [possible, if_true, true_imp_iff]
      cases row : rowCall world.2 index with
      | none => exact iff_of_true each trivial
      | some call =>
        -- Noting the callback in the table leaves the desk as it is.
        have called : Sound (calling call world) := ⟨sound.usb, sound.tidy.calling call⟩
        have before : (deskOf (calling call world)).Each fact := each
        cases sound.tidy.registered.due row with
        | listenerReady registration =>
          exact iff_of_true (Desk.Each.accept called.tidy before blank possible) trivial
        | listenerError registration error => exact iff_of_true each trivial
        | ready registration conn member =>
          simp only [callServer]
          rw [deskOf_read called.tidy member input, reading _ input conn called before member]
          exact readsBlind ..
        | error registration conn error member =>
          have closed := before.close conn
          rw [← deskOf_remove called.tidy member] at closed
          cases error <;> exact iff_of_true closed trivial
        | usbReady registration =>
          exact (reporting _ input called before).trans (reportsBlind ..)
        | usbError registration error => exact iff_of_true each trivial
        | ipc registration => exact iff_of_true each trivial
    · simp only [possible, Bool.false_eq_true, if_false, false_imp_iff, iff_true]
      exact each

end Daliserver
