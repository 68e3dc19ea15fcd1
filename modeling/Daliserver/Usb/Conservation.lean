import Daliserver.Usb.Transfers

/-! No request that was accepted is lost, duplicated, or overtaken on its way to the device. -/

namespace Daliserver

open Machine

variable {α : Type}

/-- What `usbdali_queue` returns tells whether the request is in the books. -/
theorem acceptedRequests_queue (dali : UsbDali α) (memory : Bool) (submit : Int)
    (frame : DaliFrame) (arg : Option α) :
    acceptedRequests (usbdaliQueue memory submit frame arg dali).1.trace =
      acceptedRequests dali.trace ++
        if (usbdaliQueue memory submit frame arg dali).2 = .success
        then [(dali.transactions, frame)] else [] := by
  -- What follows the acceptance never accepts another request.
  have next : ∀ after : UsbDali α,
      acceptedRequests (usbdaliNext submit after).trace = acceptedRequests after.trace := by
    intro after
    rcases usbdaliNext_cases submit after with same | ⟨_, _, stops⟩ | listens |
      ⟨_, _, _, _, sends⟩
    · rw [same]
    · simp [stops, libusbCancelTransfer]
    · simp [listens, receiving]
    · simp [sends, sending]
  rw [usbdaliQueue_eq]
  split
  · simp [next, enqueued, newTransaction, UsbDaliTransaction.key]
  · simp

/-- The requests on which service has begun are the first ones that were accepted. -/
theorem Ledger.started_first {dali : UsbDali α} (ledger : Ledger dali) :
    (fifoOf dali).started <+: acceptedRequests dali.trace := by
  -- The waiting requests form the end of the history.
  rw [ledger.history, Fifo.history_eq_started]
  exact List.prefix_append _ _

/-- The packet sent in a given turn is the one of the request accepted in the same turn. -/
theorem Ledger.packet_of_turn {dali : UsbDali α} (ledger : Ledger dali) {turn : Nat}
    {packet : Option Nat × Bytes} (sent : (submittedPackets dali.trace)[turn]? = some packet) :
    ∃ request, (acceptedRequests dali.trace)[turn]? = some request ∧
      packet = packetOf turn request := by
  -- Packets are numbered by the requests that have started, which come first in the history.
  rw [ledger.packets, List.getElem?_mapIdx, Option.map_eq_some_iff] at sent
  obtain ⟨request, begun, same⟩ := sent
  obtain ⟨later, whole⟩ := ledger.started_first
  refine ⟨request, ?_, same.symm⟩
  rw [← whole, List.getElem?_append_left (List.getElem?_eq_some_iff.mp begun).1, begun]

section Cancel

variable [DecidableEq α]

/--
Conservation of requests.

After any session, the accepted requests are those already reported, then the active one, then
the queue from head to tail, and each of them occurs once.
Packets leave in the order of acceptance, numbered from one and wrapping at a byte.
Neither failing submissions nor the status of a completion can disturb this.
-/
theorem requests_conserved (submit : Int) (events : List (UsbEvent α)) :
    let dali := run usbStep (usbStart submit) events
    acceptedRequests dali.trace = reportedRequests dali.trace ++
        dali.transaction.toList.map (·.key) ++ dali.queue.map (·.key) ∧
      ((acceptedRequests dali.trace).map Prod.fst).Nodup ∧
      ((reportedRequests dali.trace).map Prod.fst).Nodup ∧
      dali.queue.length ≤ 255 ∧
      (∀ turn packet, (submittedPackets dali.trace)[turn]? = some packet →
        ∃ id request, (acceptedRequests dali.trace)[turn]? = some (id, request) ∧
          packet = (some id, outPacket ((turn + 1) % 256) request)) ∧
      ∀ memory code frame arg,
        acceptedRequests (usbdaliQueue memory code frame arg dali).1.trace =
          acceptedRequests dali.trace ++
            if (usbdaliQueue memory code frame arg dali).2 = .success
            then [(dali.transactions, frame)] else [] := by
  intro dali
  have ledger : Ledger dali := (usbSound_run submit events).ledger
  have distinct : ((acceptedRequests dali.trace).map Prod.fst).Nodup := by
    rw [ledger.named]; exact List.nodup_range
  refine ⟨?_, distinct, ?_, ?_, ?_, acceptedRequests_queue dali⟩
  · rw [ledger.history]
    cases active : dali.transaction <;> simp [Fifo.history, fifoOf, active]
  · -- The reported requests are a front part of the accepted ones.
    rw [ledger.history] at distinct
    simp only [Fifo.history, fifoOf, List.append_assoc, List.map_append] at distinct
    exact distinct.of_append_left
  · have room := ledger.room
    rwa [ledger.size] at room
  · intro turn packet sent
    obtain ⟨⟨id, request⟩, accepted, same⟩ := ledger.packet_of_turn sent
    exact ⟨id, request, accepted, same⟩

end Cancel

end Daliserver
