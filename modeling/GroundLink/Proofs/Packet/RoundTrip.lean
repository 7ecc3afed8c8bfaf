import GroundLink.Packet.Basic
import GroundLink.Proofs.Packet.Checksum
import GroundLink.Proofs.Packet.Header
import GroundLink.Proofs.Time.Cds
import GroundLink.Telecommand
import GroundLink.Telemetry

/-!
# Packets are read back

Both directions put a packet together in the same way: the primary header, the secondary header, the
application data and the checksum of all these.  A receiver that finds such a packet at the start of
a buffer reads exactly these parts, whatever follows (`Packet.decode_close`, `Packet.ofSpan_close`).

* `Telecommand.make_roundTrip` is the round trip of a telecommand from its fields, and
* `Telemetry.toBytes_roundTrip` that of telemetry, for data of any length.
-/

namespace GroundLink

/-! ### The parts of a packet -/

namespace Checksum

theorem length_close (covered : Bytes) : (close covered).length = covered.length + size := by
  rw [close, List.length_append, Bytes.length_ofWord16, size]

/-- The field at the end of a clean packet is the checksum of the octets before it. -/
theorem isClean_append_ofWord16 (covered : Bytes) (field : UInt16) :
    isClean (covered ++ Bytes.ofWord16 field) = true ↔ checksum covered = field := by
  rw [Bytes.ofWord16, isClean_append_word, Bytes.word16_octets]

/-- **A packet with its checksum is clean.** -/
theorem isClean_close (covered : Bytes) : isClean (close covered) = true :=
  (isClean_append_ofWord16 covered _).mpr rfl

/-- The checksum is written over the last two octets, whatever they are. -/
theorem stamp_append (covered : Bytes) {field : Bytes} (hfield : field.length = size) :
    stamp (covered ++ field) = .ok (checksum covered, close covered) := by
  have hlength : (covered ++ field).length = covered.length + size := by
    rw [List.length_append, hfield]
  rw [stamp, if_neg (by omega), hlength, Nat.add_sub_cancel, List.take_left]

end Checksum

namespace Packet

/-! ### Reading -/

variable {h : Header} {secondary data : Bytes}

/-- A receiver takes as much of a buffer as the header declares. -/
theorem decode_eq {buffer : Bytes} (header : Header.ofBytes? buffer = .ok h)
    (holds : h.kind.minSize ≤ h.packetSize) (reaches : h.packetSize ≤ buffer.length) :
    decode buffer = .ok (ofSpan h (buffer.take h.packetSize)) := by
  simp only [decode, header, bind, Except.bind, if_neg (Nat.not_lt.mpr holds),
    if_neg (Nat.not_lt.mpr reaches)]
  rfl

/-- **A packet with its checksum is read back**, whatever follows it. -/
theorem decode_close (hsize : secondary.length = h.kind.secondarySize)
    (hlength : h.length.toNat + 1 = secondary.length + data.length + Checksum.size)
    (rest : Bytes) :
    decode (Checksum.close (h.toBytes ++ secondary ++ data) ++ rest) =
      .ok (ofSpan h (Checksum.close (h.toBytes ++ secondary ++ data))) := by
  have hpacket : (Checksum.close (h.toBytes ++ secondary ++ data)).length = h.packetSize := by
    rw [Checksum.length_close, List.length_append, List.length_append, Header.length_toBytes,
      Header.packetSize]
    omega
  have hheader : Header.ofBytes? (Checksum.close (h.toBytes ++ secondary ++ data) ++ rest) =
      .ok h := by
    rw [Checksum.close, List.append_assoc, List.append_assoc, List.append_assoc]
    exact h.ofBytes?_toBytes_append _
  have holds : h.kind.minSize ≤ h.packetSize := by
    rw [Header.packetSize, Kind.minSize, ← hsize]
    omega
  have reaches : h.packetSize ≤
      (Checksum.close (h.toBytes ++ secondary ++ data) ++ rest).length := by
    rw [List.length_append, hpacket]
    exact Nat.le_add_right _ _
  rw [decode_eq hheader holds reaches, ← hpacket, List.take_left]

/-- The application data stand between the secondary header and the checksum. -/
theorem ofSpan_close_data (hsize : secondary.length = h.kind.secondarySize) :
    (ofSpan h (Checksum.close (h.toBytes ++ secondary ++ data))).data = data := by
  have hfinish : (Checksum.close (h.toBytes ++ secondary ++ data)).length - Checksum.size =
      (h.toBytes ++ secondary ++ data).length := by
    rw [Checksum.length_close, Nat.add_sub_cancel]
  have hstart : Header.size + h.kind.secondarySize = (h.toBytes ++ secondary).length := by
    rw [List.length_append, Header.length_toBytes, hsize]
  rw [ofSpan, hfinish, hstart, Checksum.close, List.take_left, List.drop_left]

/-- The checksum field holds the checksum of what comes before. -/
theorem ofSpan_close_crc (covered : Bytes) :
    (ofSpan h (Checksum.close covered)).crc = checksum covered := by
  have hfinish : (Checksum.close covered).length - Checksum.size = covered.length := by
    rw [Checksum.length_close, Nat.add_sub_cancel]
  rw [ofSpan, hfinish]
  have hhi : (Checksum.close covered).getD covered.length 0 =
      UInt8.ofNat ((checksum covered).toNat / 256) := by
    rw [Checksum.close, List.getD_append_right _ _ _ _ (Nat.le_refl _), Nat.sub_self]
    rfl
  have hlo : (Checksum.close covered).getD (covered.length + 1) 0 =
      UInt8.ofNat (checksum covered).toNat := by
    rw [Checksum.close, List.getD_append_right _ _ _ _ (Nat.le_add_right _ 1), Nat.add_sub_cancel_left]
    rfl
  rw [hhi, hlo, Bytes.word16_octets]

/-- **All that a receiver reads** in a packet that was put together from a header, the octets of a
secondary header and application data. -/
theorem ofSpan_close {first service subservice subcounter : UInt8} {stamp : Bytes}
    (hsize : (first :: service :: subservice :: subcounter :: stamp).length =
      h.kind.secondarySize) :
    let covered := h.toBytes ++ (first :: service :: subservice :: subcounter :: stamp) ++ data
    ofSpan h (Checksum.close covered) =
      { header := h
        version := Fin.ofNat 8 (first.toNat / 16)
        ack := AckFlags.ofOctet first
        service, subservice, subcounter
        time := match timeField h.kind (Checksum.close covered) with
          | some (.ok time) => some time
          | _ => none
        data
        crc := checksum covered
        valid := true
        raw := Checksum.close covered } := by
  intro covered
  have hdata : (ofSpan h (Checksum.close covered)).data = data := ofSpan_close_data hsize
  have hcrc := ofSpan_close_crc (h := h) covered
  have hclean := Checksum.isClean_close covered
  rw [ofSpan] at hdata hcrc ⊢
  dsimp only at hdata hcrc
  rw [hdata, hcrc, hclean]
  rfl

end Packet

/-! ### Telecommands -/

namespace Telecommand

open Packet

variable (t : Telecommand)

/-- The length field has room for any data that a telecommand may carry. -/
theorem header_length : t.header.length.toNat + 1 =
    t.secondary.length + t.data.length + Checksum.size := by
  have hfits : t.data.length ≤ 65530 := t.data_fits
  have hsecondary : t.secondary.length = 4 := rfl
  have hlength : t.header.length = UInt16.ofNat (4 + t.data.length + 2 - 1) := rfl
  rw [hlength, hsecondary, Checksum.size, UInt16.toNat_ofNat']
  omega

theorem length_covered :
    t.covered.length = Header.size + sharedSize + t.data.length := by
  have hsecondary : t.secondary.length = sharedSize := rfl
  rw [covered, List.length_append, List.length_append, Header.length_toBytes, hsecondary]

theorem length_toBytes : t.toBytes.length = t.size := by
  rw [toBytes, Checksum.length_close, length_covered, size]

/-- **What a receiver reads** in the packet of a telecommand. -/
theorem decode_toBytes_append (rest : Bytes) : Packet.decode (t.toBytes ++ rest) = .ok
    { header := t.header
      version := 1
      ack := t.ack
      service := t.service
      subservice := t.subservice
      subcounter := t.source
      time := none
      data := t.data
      crc := checksum t.covered
      valid := true
      raw := t.toBytes } := by
  -- The flags come back because they fit below the version in their octet.
  have hfirst : (UInt8.ofNat (Version.pusA.code * 16 + t.ack.val)).toNat = 16 + t.ack.val := by
    rw [UInt8.toNat_ofNat', Version.code]
    omega
  have hversion : Fin.ofNat 8 ((16 + t.ack.val) / 16) = 1 := by
    refine Fin.ext ?_
    rw [Fin.val_ofNat]
    omega
  have hack : Fin.ofNat 16 (16 + t.ack.val) = t.ack := by
    refine Fin.ext ?_
    rw [Fin.val_ofNat]
    omega
  rw [toBytes, covered, decode_close rfl t.header_length, secondary, ofSpan_close rfl,
    AckFlags.ofOctet, hfirst, hversion, hack]
  rfl

/-- **A telecommand is written over the start of a buffer** that is long enough, whatever it held
before. -/
theorem writeTo_eq {buffer : Bytes} (fits : t.size ≤ buffer.length) :
    t.writeTo buffer = .ok (t.size, t.toBytes ++ buffer.drop t.size) := by
  have hsize : t.size = Header.size + sharedSize + t.data.length + Checksum.size := rfl
  have htaken : (buffer.take t.size).length = t.size := List.length_take_of_le fits
  have hheader : t.header.writeTo (buffer.take t.size) =
      .ok (t.header.toBytes ++ (buffer.take t.size).drop Header.size) :=
    t.header.writeTo_eq (by omega)
  have hprefix : (t.header.toBytes ++ t.secondary).length = Header.size + sharedSize := rfl
  -- What is left of the old contents is as long as the checksum field.
  have hfield : ((((buffer.take t.size).drop Header.size).drop t.secondary.length).drop
      t.data.length).length = Checksum.size := by
    have hsecondary : t.secondary.length = sharedSize := rfl
    rw [List.length_drop, List.length_drop, List.length_drop, htaken, hsecondary, hsize]
    omega
  simp only [writeTo, if_neg (Nat.not_lt.mpr fits), hheader, bind, Except.bind]
  rw [Bytes.overwrite_append t.header.length_toBytes, Bytes.overwrite_append hprefix,
    Checksum.stamp_append _ hfield]
  rfl

/-- A new buffer of the right size becomes the packet. -/
theorem writeTo_zeros : t.writeTo (List.replicate t.size 0) = .ok (t.size, t.toBytes) := by
  have hlength : (List.replicate t.size (0 : UInt8)).length = t.size := List.length_replicate
  rw [t.writeTo_eq (Nat.le_of_eq hlength.symm), List.drop_of_length_le (Nat.le_of_eq hlength),
    List.append_nil]

theorem size_eq : t.size = t.header.length.toNat + 7 := by
  have hheader := t.header_length
  have hsecondary : t.secondary.length = 4 := rfl
  have hsize : t.size = 6 + 4 + t.data.length + 2 := rfl
  rw [hsecondary, Checksum.size] at hheader
  omega

/-- **A telecommand is read back from its packet.**  Data that exceed the length field are refused.
Otherwise the packet is written, and whatever follows it in a buffer, a receiver reads the fields
that the telecommand was made from, each cut to its width, and the record that is kept of the
telecommand agrees with them. -/
theorem make_roundTrip (apid : UInt16) (service subservice : UInt8) (sequence : UInt16)
    (ack source : UInt8) (data : Bytes) :
    match make apid service subservice sequence data with
    | .error cause => 65530 < data.length ∧ cause = .appDataTooLarge data.length
    | .ok made =>
      let t := (made.withAck ack).withSource source
      data.length ≤ 65530 ∧
        t.writeTo (List.replicate t.size 0) = .ok (t.size, t.pack.raw) ∧
        ∀ rest, ∃ p, Packet.decode (t.pack.raw ++ rest) = .ok p ∧ p.valid = true ∧
          p.header.kind = .telecommand ∧ p.header.apid.val = apid.toNat % 2 ^ 11 ∧
          p.header.sequence.val = sequence.toNat % 2 ^ 14 ∧ p.header.segment = .unsegmented ∧
          p.header.hasSecondary = true ∧ p.version.val = Version.pusA.code ∧
          p.ack.val = ack.toNat % 16 ∧ p.service = service ∧ p.subservice = subservice ∧
          p.subcounter = source ∧ p.time = none ∧ p.data = data ∧ p.raw = t.pack.raw ∧
          p.header = t.header ∧ p.size = t.size ∧ t.size = p.header.length.toNat + 7 ∧
          t.pack.info = ⟨p.service, p.subservice, UInt16.ofNat p.header.sequence.val,
            p.header.packetId, p.data⟩ := by
  by_cases fits : data.length ≤ maxData
  case neg =>
    rw [make, dif_neg fits]
    exact ⟨Nat.lt_of_not_le fits, rfl⟩
  case pos =>
    rw [make, dif_pos fits]
    refine ⟨fits, writeTo_zeros _, fun rest => ⟨_, decode_toBytes_append _ rest, ?_⟩⟩
    -- All fields are those of the telecommand; only the two sizes take an argument.
    exact ⟨rfl, rfl, rfl, rfl, rfl, rfl, rfl, rfl, rfl, rfl, rfl, rfl, rfl, rfl, rfl,
      length_toBytes _, size_eq _, rfl⟩

end Telecommand

/-! ### Telemetry -/

namespace Telemetry

open Packet

variable {t : Telemetry}

/-- The length field has room for any data that telemetry may carry. -/
theorem header_length (fits : t.data.length ≤ maxData) : t.header.length.toNat + 1 =
    t.secondary.length + t.data.length + Checksum.size := by
  have hfits : t.data.length ≤ 65523 := fits
  have hsecondary : t.secondary.length = 11 := rfl
  have hlength : t.header.length = UInt16.ofNat (11 + t.data.length + 2 - 1) := rfl
  rw [hlength, hsecondary, Checksum.size, UInt16.toNat_ofNat']
  omega

theorem length_close_covered : (Checksum.close t.covered).length = t.size := by
  have hsecondary : t.secondary.length = Kind.telemetry.secondarySize := rfl
  rw [Checksum.length_close, covered, List.length_append, List.length_append,
    Header.length_toBytes, hsecondary, size]

/-- The timestamp stands behind the octets that both secondary headers share. -/
theorem timeField_close :
    timeField t.header.kind (Checksum.close t.covered) = some (.ok t.time) := by
  have hkind : t.header.kind = .telemetry := rfl
  have hdrop : (Checksum.close t.covered).drop (Header.size + sharedSize) =
      t.time.toBytes ++ t.data ++ Bytes.ofWord16 (checksum t.covered) := rfl
  rw [hkind, timeField, hdrop, List.append_assoc, Cds.ofBytes?_toBytes_append]

/-- **What a receiver reads** in a telemetry packet. -/
theorem decode_close_append (fits : t.data.length ≤ maxData) (rest : Bytes) :
    Packet.decode (Checksum.close t.covered ++ rest) = .ok
      { header := t.header
        version := 1
        ack := AckFlags.none
        service := t.service
        subservice := t.subservice
        subcounter := t.subcounter
        time := some t.time
        data := t.data
        crc := checksum t.covered
        valid := true
        raw := Checksum.close t.covered } := by
  have hread : Packet.decode (Checksum.close t.covered ++ rest) =
      .ok (ofSpan t.header (Checksum.close t.covered)) := decode_close rfl (header_length fits) rest
  have hcovered : t.covered = t.header.toBytes ++
      (UInt8.ofNat 16 :: t.service :: t.subservice :: t.subcounter :: t.time.toBytes) ++ t.data := rfl
  rw [hread, hcovered, ofSpan_close rfl, ← hcovered, timeField_close]
  rfl

/-- **Telemetry is read back from its packet.**  Data that exceed the length field are refused.
Otherwise, whatever follows the packet in a buffer, a receiver reads the fields of the telemetry,
with identifier and count cut to their widths, and the very timestamp. -/
theorem toBytes_roundTrip (t : Telemetry) :
    match t.toBytes? with
    | .error cause => 65523 < t.data.length ∧ cause = .appDataTooLarge t.data.length
    | .ok raw =>
      t.data.length ≤ 65523 ∧ raw.length = t.size ∧
        ∀ rest, ∃ p, Packet.decode (raw ++ rest) = .ok p ∧ p.valid = true ∧
          p.header.kind = .telemetry ∧ p.header.apid.val = t.apid.toNat % 2 ^ 11 ∧
          p.header.sequence.val = t.sequence.toNat % 2 ^ 14 ∧ p.service = t.service ∧
          p.subservice = t.subservice ∧ p.subcounter = t.subcounter ∧ p.ack.val = 0 ∧
          p.version.val = Version.pusA.code ∧ p.time = some t.time ∧ p.data = t.data ∧
          p.raw = raw ∧ p.header.length.toNat + 7 = raw.length := by
  by_cases fits : t.data.length ≤ maxData
  case neg =>
    rw [toBytes?, if_neg fits]
    exact ⟨Nat.lt_of_not_le fits, rfl⟩
  case pos =>
    rw [toBytes?, if_pos fits]
    have hlength : t.header.length.toNat + 7 = (Checksum.close t.covered).length := by
      have hheader := header_length fits
      have hsecondary : t.secondary.length = 11 := rfl
      have hsize : t.size = 6 + 11 + t.data.length + 2 := rfl
      rw [hsecondary, Checksum.size] at hheader
      rw [length_close_covered]
      omega
    refine ⟨fits, length_close_covered, fun rest => ⟨_, decode_close_append fits rest, ?_⟩⟩
    exact ⟨rfl, rfl, rfl, rfl, rfl, rfl, rfl, rfl, rfl, rfl, rfl, rfl, hlength⟩

end Telemetry

end GroundLink
