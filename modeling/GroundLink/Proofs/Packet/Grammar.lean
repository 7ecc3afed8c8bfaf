import GroundLink.Packet.Basic
import GroundLink.Proofs.Packet.Header
import GroundLink.Proofs.Time.Cds

/-!
# The grammar of received packets

A buffer begins with a packet (`Packet.IsReadable`) if it reaches as far as its length field says,
and that is far enough for both headers and the checksum.  These are the buffers that strict
decoding accepts (`Packet.decode_eq_ok_iff`), and `Packet.decode_eq_ite` says with which error it
refuses the others.  What is read depends on the declared octets only (`Packet.decode_append`),
which are the two headers, the data and the checksum, one behind the other (`Packet.ofSpan_layout`).

`Packet.decodeChecked?` is strict decoding with every octet looked up where the buffer holds it.  It
always has a result, and the same one (`Packet.decodeChecked?_eq`).

The main statement is `Packet.decode_grammar`.
-/

namespace GroundLink

/-! ### Parts of a byte string -/

namespace Bytes

/-- The octets from `start` up to `stop`, if the string reaches that far. -/
def slice? (bs : Bytes) (start stop : Nat) : Option Bytes :=
  if start ≤ stop ∧ stop ≤ bs.length then some ((bs.take stop).drop start) else none

theorem slice?_eq {bs : Bytes} {start stop : Nat} (order : start ≤ stop)
    (reaches : stop ≤ bs.length) : bs.slice? start stop = some ((bs.take stop).drop start) :=
  if_pos ⟨order, reaches⟩

/-- Octets of a part are octets of the whole. -/
theorem getElem?_part {bs : Bytes} {start stop i : Nat} (inside : start + i < stop)
    (reaches : stop ≤ bs.length) :
    ((bs.take stop).drop start)[i]? = some (bs.getD (start + i) 0) := by
  rw [List.getElem?_drop, List.getElem?_take_of_lt inside,
    getElem?_eq_some_getD (Nat.lt_of_lt_of_le inside reaches)]

end Bytes

namespace Packet

/-! ### What is accepted -/

theorem Kind.minSize_eq (kind : Kind) :
    kind.minSize = Header.size + kind.secondarySize + Checksum.size := rfl

theorem Kind.sharedSize_le (kind : Kind) : sharedSize ≤ kind.secondarySize := by
  cases kind <;> decide

/-- The octets that a buffer declares to be its first packet. -/
def span (buffer : Bytes) : Bytes :=
  buffer.take (Header.leading buffer).packetSize

/-- A buffer that begins with a packet. -/
structure IsReadable (buffer : Bytes) : Prop where
  /-- It holds a header. -/
  header : Header.size ≤ buffer.length
  /-- It reaches as far as the header declares. -/
  reaches : (Header.leading buffer).packetSize ≤ buffer.length
  /-- The declared octets have room for both headers and the checksum. -/
  holds : (Header.leading buffer).kind.minSize ≤ (Header.leading buffer).packetSize

variable {buffer : Bytes}

/-- **The result of strict decoding** for every buffer: what is missing is reported in this
order. -/
theorem decode_eq_ite (buffer : Bytes) : decode buffer =
    if buffer.length < Header.size then .error (.tooShort Header.size buffer.length)
    else if buffer.length < (Header.leading buffer).packetSize then
      .error (.tooShort (Header.leading buffer).packetSize buffer.length)
    else if (Header.leading buffer).packetSize < (Header.leading buffer).kind.minSize then
      .error (.tooShort (Header.leading buffer).kind.minSize (Header.leading buffer).packetSize)
    else .ok (ofSpan (Header.leading buffer) (span buffer)) := by
  rw [decode, Header.ofBytes?_eq]
  by_cases hheader : buffer.length < Header.size
  · rw [if_pos hheader, if_pos hheader]
    rfl
  · rw [if_neg hheader, if_neg hheader]
    simp only [bind, Except.bind]
    by_cases hreaches : buffer.length < (Header.leading buffer).packetSize
    · rw [if_pos hreaches, if_pos hreaches]
      rfl
    · rw [if_neg hreaches, if_neg hreaches]
      by_cases hholds : (Header.leading buffer).packetSize < (Header.leading buffer).kind.minSize
      · rw [if_pos hholds, if_pos hholds]
        rfl
      · rw [if_neg hholds, if_neg hholds]
        rfl

theorem IsReadable.decode_eq (r : IsReadable buffer) :
    decode buffer = .ok (ofSpan (Header.leading buffer) (span buffer)) := by
  rw [decode_eq_ite, if_neg (Nat.not_lt.mpr r.header), if_neg (Nat.not_lt.mpr r.reaches),
    if_neg (Nat.not_lt.mpr r.holds)]

/-- **Strict decoding accepts** the buffers that begin with a packet. -/
theorem decode_eq_ok_iff {p : Packet} : decode buffer = .ok p ↔
    IsReadable buffer ∧ p = ofSpan (Header.leading buffer) (span buffer) := by
  constructor
  · intro h
    rw [decode_eq_ite] at h
    by_cases hheader : buffer.length < Header.size
    case pos => rw [if_pos hheader] at h; exact nomatch h
    by_cases hreaches : buffer.length < (Header.leading buffer).packetSize
    case pos => rw [if_neg hheader, if_pos hreaches] at h; exact nomatch h
    by_cases hholds : (Header.leading buffer).packetSize < (Header.leading buffer).kind.minSize
    case pos => rw [if_neg hheader, if_neg hreaches, if_pos hholds] at h; exact nomatch h
    rw [if_neg hheader, if_neg hreaches, if_neg hholds] at h
    exact ⟨⟨Nat.le_of_not_lt hheader, Nat.le_of_not_lt hreaches, Nat.le_of_not_lt hholds⟩,
      (Except.ok.inj h).symm⟩
  · rintro ⟨r, rfl⟩
    exact r.decode_eq

/-- **A valid packet** is read where a buffer begins with a packet and its octets are clean. -/
theorem decodeLenient_valid_iff : (decodeLenient buffer).valid = true ↔
    IsReadable buffer ∧ Checksum.isClean (span buffer) = true := by
  rw [decodeLenient]
  cases hdecode : decode buffer with
  | error cause =>
    refine ⟨fun h => Bool.noConfusion h, fun ⟨r, _⟩ => ?_⟩
    rw [r.decode_eq] at hdecode
    exact nomatch hdecode
  | ok p =>
    obtain ⟨r, rfl⟩ := decode_eq_ok_iff.mp hdecode
    exact ⟨fun h => ⟨r, h⟩, fun h => h.2⟩

/-! ### What it depends on -/

/-- **Octets behind the declared ones are not looked at**, whether they hold a packet or are too
few for one. -/
theorem decode_append (header : Header.size ≤ buffer.length)
    (reaches : (Header.leading buffer).packetSize ≤ buffer.length) (rest : Bytes) :
    decode (buffer ++ rest) = decode buffer := by
  have hleading := Header.leading_append header rest
  have hspan : span (buffer ++ rest) = span buffer := by
    rw [span, hleading, List.take_append_of_le_length reaches, span]
  have hlength : buffer.length ≤ (buffer ++ rest).length := by
    rw [List.length_append]
    exact Nat.le_add_right _ _
  rw [decode_eq_ite, decode_eq_ite buffer, hleading, hspan, if_neg (Nat.not_lt.mpr header),
    if_neg (Nat.not_lt.mpr (Nat.le_trans header hlength)), if_neg (Nat.not_lt.mpr reaches),
    if_neg (Nat.not_lt.mpr (Nat.le_trans reaches hlength))]

theorem IsReadable.length_span (r : IsReadable buffer) :
    (span buffer).length = (Header.leading buffer).packetSize :=
  List.length_take_of_le r.reaches

theorem IsReadable.getD_span (r : IsReadable buffer) {i : Nat} (inside : i < 12) :
    (span buffer).getD i 0 = buffer.getD i 0 := by
  have hmin : 12 ≤ (Header.leading buffer).kind.minSize := by
    cases (Header.leading buffer).kind <;> decide
  exact Bytes.getD_take (Nat.lt_of_lt_of_le inside (Nat.le_trans hmin r.holds))

/-- The declared octets are read as the buffer that they were taken from. -/
theorem IsReadable.decode_span (r : IsReadable buffer) : decode (span buffer) = decode buffer := by
  have hleading : Header.leading (span buffer) = Header.leading buffer :=
    Header.leading_congr fun i hi => r.getD_span (Nat.lt_trans hi (by decide))
  have hpacket : Header.size ≤ (Header.leading buffer).packetSize := by
    rw [Header.packetSize]
    omega
  have hheader : Header.size ≤ (span buffer).length := by rw [r.length_span]; exact hpacket
  have hreaches : (Header.leading (span buffer)).packetSize ≤ (span buffer).length := by
    rw [hleading]
    exact Nat.le_of_eq r.length_span.symm
  have hdecode := decode_append hheader hreaches (buffer.drop (Header.leading buffer).packetSize)
  rw [span, List.take_append_drop] at hdecode
  exact hdecode.symm

/-! ### The parts of a packet -/

variable {h : Header} {raw : Bytes}

def secondaryHeader (h : Header) (raw : Bytes) : Bytes :=
  (raw.take (Header.size + h.kind.secondarySize)).drop Header.size

theorem length_secondaryHeader (holds : h.kind.minSize ≤ raw.length) :
    (secondaryHeader h raw).length = h.kind.secondarySize := by
  have hmin := h.kind.minSize_eq
  rw [secondaryHeader, List.length_drop, List.length_take_of_le (by omega), Nat.add_sub_cancel_left]

/-- Both secondary headers start with the same four octets.  Only telemetry has more. -/
theorem secondaryHeader_eq (holds : h.kind.minSize ≤ raw.length) : secondaryHeader h raw =
    raw.getD 6 0 :: raw.getD 7 0 :: raw.getD 8 0 :: raw.getD 9 0 ::
      match h.kind with
      | .telemetry => (raw.drop 10).take Cds.size
      | .telecommand => [] := by
  have hmin : 12 ≤ raw.length := Nat.le_trans (by cases h.kind <;> decide) holds
  have hshared : raw.drop Header.size = raw.getD 6 0 :: raw.getD 7 0 :: raw.getD 8 0 ::
      raw.getD 9 0 :: raw.drop 10 := by
    rw [Header.size, Bytes.drop_eq_getD_cons (by omega), Bytes.drop_eq_getD_cons (by omega),
      Bytes.drop_eq_getD_cons (by omega), Bytes.drop_eq_getD_cons (by omega)]
  rw [secondaryHeader, List.drop_take, Nat.add_sub_cancel_left, hshared]
  cases h.kind <;> rfl

/-- **The octets of a packet** are the two headers, the data and the checksum. -/
theorem ofSpan_layout (holds : h.kind.minSize ≤ raw.length) :
    raw = raw.take Header.size ++ secondaryHeader h raw ++ (ofSpan h raw).data ++
      Bytes.ofWord16 (ofSpan h raw).crc := by
  have hmin := h.kind.minSize_eq
  have hsize : Checksum.size = 2 := rfl
  have hheaders : raw.take (Header.size + h.kind.secondarySize) =
      raw.take Header.size ++ secondaryHeader h raw := by
    have hsplit := List.take_append_drop Header.size
      (raw.take (Header.size + h.kind.secondarySize))
    rw [List.take_take, Nat.min_eq_left (Nat.le_add_right _ _)] at hsplit
    exact hsplit.symm
  have hcovered : raw.take (raw.length - Checksum.size) =
      raw.take (Header.size + h.kind.secondarySize) ++ (ofSpan h raw).data := by
    have hsplit := List.take_append_drop (Header.size + h.kind.secondarySize)
      (raw.take (raw.length - Checksum.size))
    rw [List.take_take, Nat.min_eq_left (by omega)] at hsplit
    exact hsplit.symm
  have hfield : raw.drop (raw.length - Checksum.size) = Bytes.ofWord16 (ofSpan h raw).crc := by
    have hcrc : (ofSpan h raw).crc = Bytes.word16 (raw.getD (raw.length - Checksum.size) 0)
      (raw.getD (raw.length - Checksum.size + 1) 0) := rfl
    rw [hcrc, Bytes.ofWord16_word16, Bytes.drop_eq_getD_cons (by omega),
      Bytes.drop_eq_getD_cons (by omega), List.drop_of_length_le (by omega)]
  rw [← hheaders, ← hcovered, ← hfield, List.take_append_drop]

theorem time_ofSpan (h : Header) (raw : Bytes) : (ofSpan h raw).time =
    match h.kind with
    | .telemetry => (Cds.ofBytes? (raw.drop (Header.size + sharedSize))).toOption
    | .telecommand => none := by
  cases hkind : h.kind with
  | telecommand => simp only [ofSpan, timeField, hkind]
  | telemetry =>
    simp only [ofSpan, timeField, hkind]
    cases Cds.ofBytes? (raw.drop (Header.size + sharedSize)) <;> rfl

/-- **A timestamp is read** in telemetry whose time field is of a known format. -/
theorem isSome_time_ofSpan (holds : h.kind.minSize ≤ raw.length) :
    (ofSpan h raw).time.isSome = true ↔
      h.kind = .telemetry ∧ (raw.getD (Header.size + sharedSize) 0).toNat / 16 = 4 := by
  rw [time_ofSpan]
  cases hkind : h.kind with
  | telecommand => exact ⟨fun h => Bool.noConfusion h, fun ⟨h, _⟩ => nomatch h⟩
  | telemetry =>
    have hmin : Kind.telemetry.minSize = Header.size + sharedSize + Cds.size + Checksum.size := rfl
    rw [hkind] at holds
    have hlong : Cds.size ≤ (raw.drop (Header.size + sharedSize)).length := by
      rw [List.length_drop]
      omega
    rw [Cds.isSome_ofBytes? hlong, Bytes.getD_drop, Nat.add_zero]
    exact ⟨fun h => ⟨rfl, h⟩, fun h => h.2⟩

/-! ### Every octet is there -/

/-- The timestamp in a secondary header. -/
def timeChecked? (kind : Kind) (secondary : Bytes) : Option (Option Cds) :=
  match kind with
  | .telemetry => (secondary.slice? sharedSize secondary.length).map fun stamp =>
    (Cds.ofBytes? stamp).toOption
  | .telecommand => some none

/-- The packet in a string of exactly the declared size. -/
def ofSpanChecked? (header : Header) (raw : Bytes) : Option Packet := do
  let start := Header.size + header.kind.secondarySize
  let finish := raw.length - Checksum.size
  let secondary ← raw.slice? Header.size start
  let time ← timeChecked? header.kind secondary
  let first ← secondary[0]?
  let service ← secondary[1]?
  let subservice ← secondary[2]?
  let subcounter ← secondary[3]?
  let data ← raw.slice? start finish
  let hi ← raw[finish]?
  let lo ← raw[finish + 1]?
  return {
    header
    version := ⟨first.toNat / 16 % 8, Nat.mod_lt _ (by decide)⟩
    ack := AckFlags.ofOctet first
    service, subservice, subcounter, time, data
    crc := Bytes.word16 hi lo
    valid := Checksum.isClean raw
    raw }

/-- Strict decoding in which an octet that the buffer does not hold has no value: as soon as one is
looked up, there is no result. -/
def decodeChecked? (buffer : Bytes) : Option (Except Error Packet) := do
  if buffer.length < Header.size then
    return .error (.tooShort Header.size buffer.length)
  let header := Header.ofWords (Bytes.word16 (← buffer[0]?) (← buffer[1]?))
    (Bytes.word16 (← buffer[2]?) (← buffer[3]?)) (Bytes.word16 (← buffer[4]?) (← buffer[5]?))
  if buffer.length < header.packetSize then
    return .error (.tooShort header.packetSize buffer.length)
  let raw ← buffer.slice? 0 header.packetSize
  if header.packetSize < header.kind.minSize then
    return .error (.tooShort header.kind.minSize header.packetSize)
  return .ok (← ofSpanChecked? header raw)

theorem timeChecked?_eq (holds : h.kind.minSize ≤ raw.length) :
    timeChecked? h.kind (secondaryHeader h raw) = some (ofSpan h raw).time := by
  have hlength := length_secondaryHeader holds
  rw [time_ofSpan]
  rw [secondaryHeader] at hlength ⊢
  cases hkind : h.kind with
  | telecommand => rfl
  | telemetry =>
    rw [hkind] at hlength
    have hfield : Header.size + Kind.telemetry.secondarySize - (Header.size + sharedSize) =
      Cds.size := rfl
    rw [timeChecked?, hlength, Bytes.slice?_eq (by decide) (Nat.le_of_eq hlength.symm),
      Option.map_some, List.take_of_length_le (Nat.le_of_eq hlength), List.drop_drop,
      List.drop_take, hfield, Cds.ofBytes?_take]

theorem ofSpanChecked?_eq (holds : h.kind.minSize ≤ raw.length) :
    ofSpanChecked? h raw = some (ofSpan h raw) := by
  have hmin := h.kind.minSize_eq
  have hsize : Checksum.size = 2 := rfl
  have hshared := h.kind.sharedSize_le
  have hsecondary : raw.slice? Header.size (Header.size + h.kind.secondarySize) =
      some (secondaryHeader h raw) :=
    Bytes.slice?_eq (Nat.le_add_right _ _) (by omega)
  have hget (i : Nat) (hi : i < sharedSize) :
      (secondaryHeader h raw)[i]? = some (raw.getD (Header.size + i) 0) :=
    Bytes.getElem?_part (by omega) (by omega)
  have hdata : raw.slice? (Header.size + h.kind.secondarySize) (raw.length - Checksum.size) =
      some (ofSpan h raw).data :=
    Bytes.slice?_eq (by omega) (Nat.sub_le _ _)
  have hhi : raw[raw.length - Checksum.size]? = some (raw.getD (raw.length - Checksum.size) 0) :=
    Bytes.getElem?_eq_some_getD (by omega)
  have hlo : raw[raw.length - Checksum.size + 1]? =
      some (raw.getD (raw.length - Checksum.size + 1) 0) :=
    Bytes.getElem?_eq_some_getD (by omega)
  simp only [ofSpanChecked?, hsecondary, timeChecked?_eq holds, hget 0 (by decide),
    hget 1 (by decide), hget 2 (by decide), hget 3 (by decide), hdata, hhi, hlo, bind,
    Option.bind, pure]
  rfl

/-- **Strict decoding looks up no octet that the buffer does not hold.** -/
theorem decodeChecked?_eq (buffer : Bytes) : decodeChecked? buffer = some (decode buffer) := by
  rw [decode_eq_ite, decodeChecked?]
  by_cases hheader : buffer.length < Header.size
  case pos =>
    rw [if_pos hheader, if_pos hheader]
    rfl
  have hget (i : Nat) (hi : i < Header.size) : buffer[i]? = some (buffer.getD i 0) :=
    Bytes.getElem?_eq_some_getD (Nat.lt_of_lt_of_le hi (Nat.le_of_not_lt hheader))
  have hleading : Header.ofWords (Bytes.word16 (buffer.getD 0 0) (buffer.getD 1 0))
      (Bytes.word16 (buffer.getD 2 0) (buffer.getD 3 0))
      (Bytes.word16 (buffer.getD 4 0) (buffer.getD 5 0)) = Header.leading buffer := rfl
  rw [if_neg hheader, if_neg hheader]
  simp only [hget 0 (by decide), hget 1 (by decide), hget 2 (by decide), hget 3 (by decide),
    hget 4 (by decide), hget 5 (by decide), hleading, bind, Option.bind, pure]
  -- From here on, each octet that is looked up lies in the declared packet.
  by_cases hreaches : buffer.length < (Header.leading buffer).packetSize
  case pos => rw [if_pos hreaches, if_pos hreaches]
  have hspan : buffer.slice? 0 (Header.leading buffer).packetSize = some (span buffer) := by
    rw [Bytes.slice?_eq (Nat.zero_le _) (Nat.le_of_not_lt hreaches), List.drop_zero, span]
  rw [if_neg hreaches, if_neg hreaches, hspan]
  dsimp only
  by_cases hholds : (Header.leading buffer).packetSize < (Header.leading buffer).kind.minSize
  case pos => rw [if_pos hholds, if_pos hholds]
  have hlength : (Header.leading buffer).kind.minSize ≤ (span buffer).length := by
    rw [span, List.length_take_of_le (Nat.le_of_not_lt hreaches)]
    exact Nat.le_of_not_lt hholds
  rw [if_neg hholds, if_neg hholds, ofSpanChecked?_eq hlength]

/-! ### The grammar -/

/-- **The parts of an accepted packet**: all octets are accounted for, the fields that both
secondary headers share stand at fixed places, and the declared octets are read as the whole buffer.
-/
theorem IsReadable.parts (r : IsReadable buffer) :
    let p := ofSpan (Header.leading buffer) (span buffer)
    decode p.raw = .ok p ∧ p.raw = span buffer ∧
      (∃ header secondary, header.length = Header.size ∧
        secondary.length = (Header.leading buffer).kind.secondarySize ∧
        p.raw = header ++ secondary ++ p.data ++ Bytes.ofWord16 p.crc) ∧
      p.raw[7]? = some p.service ∧ p.raw[8]? = some p.subservice ∧
      p.raw[9]? = some p.subcounter ∧
      (p.time.isSome = true ↔
        (Header.leading buffer).kind = .telemetry ∧ (buffer.getD 10 0).toNat / 16 = 4) := by
  intro p
  have hlength := r.length_span
  have holds : (Header.leading buffer).kind.minSize ≤ (span buffer).length := by
    rw [hlength]
    exact r.holds
  -- Both kinds of packets are twelve octets long at least.
  have hmin : 12 ≤ (span buffer).length :=
    Nat.le_trans (by cases (Header.leading buffer).kind <;> decide) holds
  have hget (i : Nat) (hi : i < 12) : p.raw[i]? = some ((span buffer).getD i 0) :=
    Bytes.getElem?_eq_some_getD (Nat.lt_of_lt_of_le hi hmin)
  have htime := isSome_time_ofSpan holds
  rw [r.getD_span (by decide)] at htime
  have hheader : ((span buffer).take Header.size).length = Header.size :=
    List.length_take_of_le (Nat.le_trans (by decide) hmin)
  exact ⟨r.decode_span.trans r.decode_eq, rfl,
    ⟨_, _, hheader, length_secondaryHeader holds, ofSpan_layout holds⟩,
    hget 7 (by decide), hget 8 (by decide), hget 9 (by decide), htime⟩

/-- **The decoder accepts exactly its grammar.**  For every buffer, the two words of the length
field and the type bit decide what strict decoding answers, no octet is looked up where the buffer
has none, and lenient decoding answers the same or keeps the buffer in a zeroed packet. -/
theorem decode_grammar (raw : Bytes) :
    let declared := 256 * (raw.getD 4 0).toNat + (raw.getD 5 0).toNat + 7
    let isTelemetry := (raw.getD 0 0).toNat / 16 % 2 = 0
    let least := if isTelemetry then 19 else 12
    decodeChecked? raw = some (decode raw) ∧
      (match decode raw with
        | .ok p => decodeLenient raw = p
        | .error _ => decodeLenient raw = ⟨⟨.telemetry, false, 0, .continuation, 0, 0⟩,
            0, 0, 0, 0, 0, none, [], 0, false, raw⟩) ∧
      if raw.length < 6 then decode raw = .error (.tooShort 6 raw.length)
      else if raw.length < declared then decode raw = .error (.tooShort declared raw.length)
      else (∀ rest, decode (raw ++ rest) = decode raw) ∧
        if declared < least then decode raw = .error (.tooShort least declared)
        else ∃ p, decode raw = .ok p ∧ decode p.raw = .ok p ∧ p.raw = raw.take declared ∧
          (∃ header secondary, header.length = 6 ∧
            secondary.length = (if isTelemetry then 11 else 4) ∧
            p.raw = header ++ secondary ++ p.data ++ Bytes.ofWord16 p.crc) ∧
          p.raw[7]? = some p.service ∧ p.raw[8]? = some p.subservice ∧
          p.raw[9]? = some p.subcounter ∧
          (p.time.isSome = true ↔ isTelemetry ∧ (raw.getD 10 0).toNat / 16 = 4) := by
  intro declared isTelemetry least
  have hdeclared : declared = (Header.leading raw).packetSize :=
    (Header.packetSize_leading raw).symm
  have hkind := Header.kind_leading raw
  have hleast : least = (Header.leading raw).kind.minSize := by
    rw [hkind]
    exact (apply_ite Kind.minSize isTelemetry .telemetry .telecommand).symm
  have hsecondary : (if isTelemetry then 11 else 4) = (Header.leading raw).kind.secondarySize := by
    rw [hkind]
    exact (apply_ite Kind.secondarySize isTelemetry .telemetry .telecommand).symm
  have htelemetry : isTelemetry ↔ (Header.leading raw).kind = .telemetry := by
    rw [hkind]
    by_cases h : isTelemetry
    · exact ⟨fun _ => if_pos h, fun _ => h⟩
    · exact ⟨fun h' => absurd h' h, fun h' => nomatch (if_neg h).symm.trans h'⟩
  refine ⟨decodeChecked?_eq raw, ?lenient, ?strict⟩
  case lenient =>
    rw [decodeLenient]
    cases decode raw <;> rfl
  -- The checks in their order: header, declared size, least size.
  case strict =>
    have hsize : (6 : Nat) = Header.size := rfl
    rw [hdeclared, hleast, hsecondary, hsize]
    by_cases hheader : raw.length < Header.size
    case pos => rw [if_pos hheader, decode_eq_ite, if_pos hheader]
    by_cases hreaches : raw.length < (Header.leading raw).packetSize
    case pos =>
      rw [if_neg hheader, if_pos hreaches, decode_eq_ite, if_neg hheader, if_pos hreaches]
    have hheld := Nat.le_of_not_lt hheader
    have hreached := Nat.le_of_not_lt hreaches
    rw [if_neg hheader, if_neg hreaches]
    refine ⟨decode_append hheld hreached, ?_⟩
    by_cases hholds : (Header.leading raw).packetSize < (Header.leading raw).kind.minSize
    case pos =>
      rw [if_pos hholds, decode_eq_ite, if_neg hheader, if_neg hreaches, if_pos hholds]
    have r : IsReadable raw := ⟨hheld, hreached, Nat.le_of_not_lt hholds⟩
    obtain ⟨hagain, hspan, hlayout, hservice, hsubservice, hsubcounter, htime⟩ := r.parts
    rw [if_neg hholds]
    exact ⟨_, r.decode_eq, hagain, hspan, hlayout, hservice, hsubservice, hsubcounter,
      htime.trans (and_congr_left fun _ => htelemetry.symm)⟩

end Packet

end GroundLink
