import HouseBus.FirmwareUpdate

/-!
# From a BeginFirmwareUpdate request to the FileRead requests

The handler of either program copies source node and path of the request to `bootloader_interface`;
`requestFileRead` reads them from there. The path length is `payload_len - 1` in 8 bits and nothing
compares it with the 200 bytes of `request_file_name`. `HandsOver` says that the server and the
path arrive as they were sent; it holds for payloads of 1 to 201 bytes and for no others
(`handsOver_iff`).
-/

namespace HouseBus

open Bytes BootloaderInterface

/-- The request `t` handed over: `b` is `bootloader_interface` before the handler, `b'` after
it. -/
structure HandsOver (can : Canard) (t : CanardRxTransfer) (b b' : BootloaderInterface) : Prop where
  stores : ∀ i ∈ storeRequestStores can t, i < requestFileNameSize
  length : b'.requestFileNameLength.toNat = (storeRequestStores can t).length
  magic : (storeRequest can t b).magic = b.magic
  nodeId : (storeRequest can t b).nodeId = b.nodeId
  requestStores : ∀ stack offset, ∀ i ∈ (requestFileRead can b' stack offset).stores,
    i < uavcanFileReadRequestMaxSize
  request : ∀ stack offset,
    (requestFileRead can b' stack offset).payload = leBytes 5 offset ++ t.payload.drop 1
  destination : ∀ stack offset,
    (requestFileRead can b' stack offset).destinationNodeId = t.payloadHead 0

/-- The payload of a FileRead request: the offset in 40 bits, then the path. -/
theorem requestFileRead_payload (can : Canard) (b : BootloaderInterface) (stack : Mem)
    (offset : ℕ) :
    (requestFileRead can b stack offset).payload =
      leBytes 5 offset ++ b.requestFileName b.requestFileNameLength.toNat := by
  have henc := can.encode_bytes stack 0 5 offset (by decide)
  have hlen : (b.requestFileName b.requestFileNameLength.toNat).length =
      b.requestFileNameLength.toNat := length_read _ _ _
  have hoff : (leBytes 5 offset).length = 5 := length_leBytes 5 offset
  unfold requestFileRead
  simp only
  rw [henc, ← Nat.zero_add (40 / 8), show 0 + 40 / 8 = 0 + (leBytes 5 offset).length by rw [hoff],
    ← write_append]
  have hsize : (leBytes 5 offset).length + b.requestFileNameLength.toNat =
      (leBytes 5 offset ++ b.requestFileName b.requestFileNameLength.toNat).length := by
    rw [List.length_append, hlen]
  rw [Nat.zero_add, hsize]
  exact read_write _ _ _

section Store

variable {can : Canard} {t : CanardRxTransfer} {b : BootloaderInterface}

/-- The stored struct when the path fits. -/
theorem storeRequest_of_le (h1 : 1 ≤ t.payloadLen) (h2 : t.payloadLen ≤ 201) :
    (storeRequest can t b).bytes =
      write (put (put b.bytes fromOffset (t.payloadHead 0)) lengthOffset
        (UInt8.ofNat (t.payloadLen - 1))) fileNameOffset (t.payload.drop 1) := by
  have hlen : (t.payloadLen + 255) % 256 = t.payloadLen - 1 := by omega
  have hall : (t.payload.drop 1).take (t.payloadLen - 1) = t.payload.drop 1 :=
    List.take_of_length_le (by simp [CanardRxTransfer.payloadLen])
  rw [storeRequest_bytes, hlen, hall]

theorem storeRequest_of_lt (h1 : 1 ≤ t.payloadLen) (h2 : t.payloadLen ≤ 201) {x : ℕ}
    (hx : x < fileNameOffset) :
    (storeRequest can t b).bytes x = if x = fromOffset then t.payloadHead 0 else b.bytes x := by
  have hne : x ≠ lengthOffset := by
    simp only [fileNameOffset, lengthOffset] at *
    omega
  rw [storeRequest_of_le h1 h2, write_of_lt _ _ hx, put, if_neg hne, put]

theorem storeRequest_of_ge (h1 : 1 ≤ t.payloadLen) (h2 : t.payloadLen ≤ 201) {x : ℕ}
    (hx : lengthOffset ≤ x) :
    (storeRequest can t b).bytes x =
      if x = lengthOffset then UInt8.ofNat (t.payloadLen - 1) else b.bytes x := by
  have hend : fileNameOffset + (t.payload.drop 1).length ≤ x := by
    simp only [CanardRxTransfer.payloadLen, fileNameOffset, lengthOffset, List.length_drop] at *
    omega
  have hne : x ≠ fromOffset := by
    simp only [fromOffset, lengthOffset] at *
    omega
  rw [storeRequest_of_le h1 h2, write_of_le _ hend, put, put, if_neg hne]

/-- What the next program reads of a request whose path fits. -/
theorem request_of_sameRequest (h1 : 1 ≤ t.payloadLen) (h2 : t.payloadLen ≤ 201)
    {b' : BootloaderInterface} (hs : SameRequest (storeRequest can t b) b') :
    b'.requestFromNodeId = t.payloadHead 0 ∧
      b'.requestFileNameLength.toNat = t.payloadLen - 1 ∧
      b'.requestFileName (t.payloadLen - 1) = t.payload.drop 1 := by
  have hpath : (t.payload.drop 1).length = t.payloadLen - 1 := by
    simp [CanardRxTransfer.payloadLen]
  refine ⟨?_, ?_, ?_⟩
  · rw [hs.requestFromNodeId, requestFromNodeId, storeRequest_of_lt h1 h2 (by decide),
      if_pos rfl]
  · rw [hs.requestFileNameLength, requestFileNameLength, storeRequest_of_ge h1 h2 (by decide),
      if_pos rfl, UInt8.toNat_ofNat']
    omega
  · have hread : b'.requestFileName (t.payloadLen - 1) =
        (storeRequest can t b).requestFileName (t.payloadLen - 1) := by
      refine read_congr fun i hi => hs _ ?_ ?_ <;>
        simp only [fromOffset, fileNameOffset, lengthOffset] <;> omega
    rw [hread, requestFileName, storeRequest_of_le h1 h2, ← hpath, read_write]

/-- A path that fits is handed over. -/
theorem handsOver_of_le (h1 : 1 ≤ t.payloadLen) (h2 : t.payloadLen ≤ 201)
    {b' : BootloaderInterface} (hs : SameRequest (storeRequest can t b) b') :
    HandsOver can t b b' := by
  obtain ⟨hfrom, hlen, hpath⟩ := request_of_sameRequest h1 h2 hs
  have hstores : storeRequestStores can t = List.range (t.payloadLen - 1) := by
    rw [storeRequestStores_eq]
    exact congrArg List.range (by omega)
  refine
    { stores := ?_, length := by rw [hlen, hstores, List.length_range], magic := ?_,
      nodeId := ?_, requestStores := ?_, request := ?_, destination := fun _ _ => hfrom }
  · intro i hi
    rw [hstores] at hi
    have := List.mem_range.mp hi
    simp only [requestFileNameSize]
    omega
  · rw [BootloaderInterface.magic, BootloaderInterface.magic]
    refine congrArg leNat (read_congr fun i hi => ?_)
    rw [storeRequest_of_lt h1 h2 (by simp only [fileNameOffset]; omega), if_neg]
    simp only [fromOffset]
    omega
  · rw [BootloaderInterface.nodeId, storeRequest_of_ge h1 h2 (by decide), if_neg (by decide)]
    rfl
  · intro stack offset i hi
    simp only [requestFileRead, hlen, List.mem_append, List.mem_range, List.mem_range'_1] at hi
    simp only [uavcanFileReadRequestMaxSize]
    omega
  · intro stack offset
    rw [requestFileRead_payload, hlen, hpath]

/-- The empty request claims a path of 255 bytes. -/
theorem storeRequest_of_empty (h : t.payloadLen = 0) {b' : BootloaderInterface}
    (hs : SameRequest (storeRequest can t b) b') : b'.requestFileNameLength = 255 := by
  have hnil : t.payload = [] := List.length_eq_zero_iff.mp h
  rw [hs.requestFileNameLength, requestFileNameLength, storeRequest_bytes, hnil,
    List.drop_nil, List.take_nil, write_nil, h, put, if_pos rfl]
  rfl

/-- No other request is handed over: a longer path is stored behind its field or cut to its length
modulo 256. -/
theorem HandsOver.le {b' : BootloaderInterface} (hs : SameRequest (storeRequest can t b) b')
    (h : HandsOver can t b b') : 1 ≤ t.payloadLen ∧ t.payloadLen ≤ 201 := by
  have hstores := h.stores
  have hlen := h.length
  rw [storeRequestStores_eq] at hstores hlen
  rw [List.length_range] at hlen
  have hpos : t.payloadLen ≠ 0 := by
    intro h0
    rw [storeRequest_of_empty h0 hs, h0] at hlen
    cases hlen
  have hle : min ((t.payloadLen + 255) % 256) (t.payloadLen - 1) ≤ 200 := by
    by_contra hgt
    have := hstores 200 (List.mem_range.mpr (by omega))
    simp only [requestFileNameSize] at this
    omega
  have hreq := congrArg List.length (h.request (fun _ => 0) 0)
  rw [requestFileRead_payload, List.length_append, List.length_append, requestFileName,
    length_read, hlen, List.length_drop] at hreq
  simp only [CanardRxTransfer.payloadLen] at *
  omega

end Store

/-- **The hand-over.** Whenever the application or the bootloader answers with error 0, server and
path arrive exactly for payloads of 1 to 201 bytes. -/
theorem handsOver_iff (can : Canard) (t : CanardRxTransfer) (s : NodeState) :
    (∀ now nodeId, (App.onBeginFirmwareUpdate can now nodeId t s).2 = t.respond [0] →
        (HandsOver can t s.bootloaderInterface
            (App.onBeginFirmwareUpdate can now nodeId t s).1.bootloaderInterface ↔
          1 ≤ t.payloadLen ∧ t.payloadLen ≤ 201)) ∧
      ((Bootloader.onBeginFirmwareUpdate can t s).2 = t.respond [0] →
        (HandsOver can t s.bootloaderInterface
            (Bootloader.onBeginFirmwareUpdate can t s).1.bootloaderInterface ↔
          1 ≤ t.payloadLen ∧ t.payloadLen ≤ 201)) := by
  constructor
  · intro now nodeId hresp
    rcases App.onBeginFirmwareUpdate_cases can now nodeId t s with ⟨-, h⟩ | ⟨-, h⟩
    · have hs := App.sameRequest_requestNodeRestart now nodeId
        { s with bootloaderInterface := storeRequest can t s.bootloaderInterface }
      rw [h]
      exact ⟨fun hh => hh.le hs, fun hh => handsOver_of_le hh.1 hh.2 hs⟩
    · rw [h] at hresp; cases hresp
  · intro hresp
    rcases Bootloader.onBeginFirmwareUpdate_cases can t s with ⟨-, -, h⟩ | ⟨r, hr, h⟩
    · have hs := SameRequest.refl (storeRequest can t s.bootloaderInterface)
      rw [h]
      exact ⟨fun hh => hh.le hs, fun hh => handsOver_of_le hh.1 hh.2 hs⟩
    · rw [h] at hresp
      simp only [CanardRxTransfer.respond, CanardResponse.mk.injEq, List.cons.injEq] at hresp
      exact absurd hresp.2.2.2.1 hr

/-- A request of node 5 with the path `path`. -/
def beginFirmwareUpdate (path : List UInt8) (h : path.length < 2 ^ 16 - 1) : CanardRxTransfer :=
  ⟨5, 0, 0, 5 :: path, by simp only [List.length_cons]; omega, fun _ => 0⟩

theorem payloadLen_beginFirmwareUpdate (path : List UInt8) (h : path.length < 2 ^ 16 - 1) :
    (beginFirmwareUpdate path h).payloadLen = path.length + 1 := rfl

/-- Both programs hand over the path `a.bin`. -/
theorem handsOver_a_bin :
    let t := beginFirmwareUpdate [97, 46, 98, 105, 110] (by decide)
    let s : NodeState := ⟨⟨fun _ => 0⟩, 0, false⟩
    HandsOver .uavcan t s.bootloaderInterface
        (App.onBeginFirmwareUpdate .uavcan 0 5 t s).1.bootloaderInterface ∧
      HandsOver .uavcan t s.bootloaderInterface
        (Bootloader.onBeginFirmwareUpdate .uavcan t s).1.bootloaderInterface := by
  intro t s
  have h := handsOver_iff .uavcan t s
  exact ⟨(h.1 0 5 rfl).mpr (by decide), (h.2 rfl).mpr (by decide)⟩

/-- A path of 201 bytes: its last byte goes to `request_file_name_length`. -/
theorem not_handsOver :
    ¬ ∀ t s, (Bootloader.onBeginFirmwareUpdate .uavcan t s).2 = t.respond [0] →
      HandsOver .uavcan t s.bootloaderInterface
        (Bootloader.onBeginFirmwareUpdate .uavcan t s).1.bootloaderInterface := by
  intro h
  have hpath : (List.replicate 201 (97 : UInt8)).length = 201 := List.length_replicate
  have hstores := (h (beginFirmwareUpdate (List.replicate 201 97) (by omega))
    ⟨⟨fun _ => 0⟩, 0, false⟩ rfl).stores 200
  rw [storeRequestStores_eq, payloadLen_beginFirmwareUpdate, hpath] at hstores
  exact absurd (hstores (List.mem_range.mpr (by omega))) (by decide)

end HouseBus
