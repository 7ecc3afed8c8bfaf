import GroundLink.Proofs.Packet.Grammar
import GroundLink.Proofs.Packet.RoundTrip

/-!
# Packets are written as they were read

A canonical packet (`Packet.Canonical`) is one without anything that a creator would not write: its
checksum matches, no octets follow it, it stands alone with a secondary header of the one version,
and its timestamp has the one format.  Created again from the fields that a receiver reads, such a
packet is the same octets (`Telecommand.toBytes_eq_of_canonical`,
`Telemetry.toBytes?_eq_of_canonical`).  So these fields determine it.

The main statement is `Packet.Canonical.recreates`.
-/

namespace GroundLink

/-! ### Nothing is cut off -/

namespace Packet

theorem Apid.ofWord_ofNat (apid : Apid) : Apid.ofWord (UInt16.ofNat apid.val) = apid := by
  have hapid := apid.isLt
  refine Fin.ext ?_
  rw [Apid.ofWord, Fin.val_ofNat, UInt16.toNat_ofNat']
  omega

theorem SequenceCount.ofWord_ofNat (n : SequenceCount) :
    SequenceCount.ofWord (UInt16.ofNat n.val) = n := by
  have hn := n.isLt
  refine Fin.ext ?_
  rw [SequenceCount.ofWord, Fin.val_ofNat, UInt16.toNat_ofNat']
  omega

theorem AckFlags.ofOctet_ofNat (ack : AckFlags) : AckFlags.ofOctet (UInt8.ofNat ack.val) = ack := by
  have hack := ack.isLt
  refine Fin.ext ?_
  rw [AckFlags.ofOctet, Fin.val_ofNat, UInt8.toNat_ofNat']
  omega

/-! ### Canonical packets -/

/-- The octets of a packet that holds nothing but what a creator would write. -/
structure Canonical (raw : Bytes) (p : Packet) : Prop where
  decodes : decode raw = .ok p
  valid : p.valid = true
  /-- No octets follow. -/
  whole : raw.length = p.header.packetSize
  /-- The version bits in front of the type bit are zero. -/
  version : (raw.getD 0 0).toNat / 32 = 0
  hasSecondary : p.header.hasSecondary = true
  unsegmented : p.header.segment = .unsegmented
  /-- The secondary header is of the written version, and the timestamp of the written format. -/
  secondary : match p.header.kind with
    | .telecommand => (raw.getD 6 0).toNat / 16 = 1
    | .telemetry => raw.getD 6 0 = 0x10 ∧ raw.getD 10 0 = 0x40

/-- What a packet is created from. -/
structure Fields where
  kind : Kind
  apid : Apid
  service : UInt8
  subservice : UInt8
  sequence : SequenceCount
  ack : AckFlags
  subcounter : UInt8
  time : Option Cds
  data : Bytes
  deriving DecidableEq

/-- The fields that a receiver reads. -/
def fields (p : Packet) : Fields :=
  ⟨p.header.kind, p.header.apid, p.service, p.subservice, p.header.sequence, p.ack, p.subcounter,
    p.time, p.data⟩

namespace Canonical

variable {raw : Bytes} {p : Packet}

theorem isReadable (c : Canonical raw p) : IsReadable raw :=
  (decode_eq_ok_iff.mp c.decodes).1

theorem header_eq (c : Canonical raw p) : p.header = Header.leading raw := by
  rw [(decode_eq_ok_iff.mp c.decodes).2]
  rfl

/-- All octets belong to the packet. -/
theorem eq_ofSpan (c : Canonical raw p) : p = ofSpan p.header raw := by
  have hspan : span raw = raw := by
    rw [span, ← c.header_eq]
    exact List.take_of_length_le (Nat.le_of_eq c.whole)
  have hp := (decode_eq_ok_iff.mp c.decodes).2
  rw [hspan, ← c.header_eq] at hp
  exact hp

theorem holds (c : Canonical raw p) : p.header.kind.minSize ≤ raw.length := by
  have hholds := c.isReadable.holds
  rw [← c.header_eq] at hholds
  rw [c.whole]
  exact hholds

/-- **The octets are put together** as a creator does it. -/
theorem eq_close (c : Canonical raw p) :
    raw = Checksum.close (p.header.toBytes ++ secondaryHeader p.header raw ++ p.data) := by
  have hlayout := ofSpan_layout c.holds
  rw [← c.eq_ofSpan] at hlayout
  have hversion : (raw.getD 0 0).toNat < 32 := by have := c.version; omega
  have hheader : p.header.toBytes = raw.take Header.size := by
    rw [c.header_eq]
    exact Header.toBytes_leading c.isReadable.header hversion
  have hclean : Checksum.isClean raw = true := by
    have hvalid := c.valid
    rw [c.eq_ofSpan] at hvalid
    exact hvalid
  rw [hlayout] at hclean
  rw [Checksum.close, hheader, (Checksum.isClean_append_ofWord16 _ _).mp hclean]
  exact hlayout

/-- The size of the data as the length field has it. -/
theorem length_data (c : Canonical raw p) : p.header.length.toNat + 1 =
    p.header.kind.secondarySize + p.data.length + Checksum.size := by
  have hlength := congrArg List.length c.eq_close
  rw [Checksum.length_close, List.length_append, List.length_append, Header.length_toBytes,
    length_secondaryHeader c.holds, c.whole, Header.packetSize] at hlength
  omega

theorem data_fits (c : Canonical raw p) : p.data.length ≤ p.header.kind.maxData := by
  have hlength := c.length_data
  have hfield := p.header.length.toNat_lt
  rw [Kind.maxData, maxDataField]
  omega

/-- Creators write all of the header but for the two fields that number packets. -/
theorem header_eq_alone (c : Canonical raw p) : p.header =
    ⟨p.header.kind, true, p.header.apid, .unsegmented, p.header.sequence,
      UInt16.ofNat (p.header.kind.secondarySize + p.data.length + Checksum.size - 1)⟩ := by
  have hlength : p.header.length =
      UInt16.ofNat (p.header.kind.secondarySize + p.data.length + Checksum.size - 1) := by
    rw [← c.length_data, Nat.add_sub_cancel, UInt16.ofNat_toNat]
  rw [← hlength, ← c.hasSecondary, ← c.unsegmented]

/-- The fields of the secondary header that both directions share. -/
theorem secondaryHeader_eq (c : Canonical raw p) : secondaryHeader p.header raw =
    raw.getD 6 0 :: p.service :: p.subservice :: p.subcounter ::
      match p.header.kind with
      | .telemetry => (raw.drop 10).take Cds.size
      | .telecommand => [] := by
  have hservice : p.service = raw.getD 7 0 := by rw [c.eq_ofSpan]; rfl
  have hsubservice : p.subservice = raw.getD 8 0 := by rw [c.eq_ofSpan]; rfl
  have hsubcounter : p.subcounter = raw.getD 9 0 := by rw [c.eq_ofSpan]; rfl
  have hsecondary := Packet.secondaryHeader_eq c.holds
  rw [← hservice, ← hsubservice, ← hsubcounter] at hsecondary
  exact hsecondary

/-- The timestamp of canonical telemetry is read, and is written to the octets that it was read
from. -/
theorem time_eq (c : Canonical raw p) (telemetry : p.header.kind = .telemetry) :
    ∃ time, p.time = some time ∧ time.toBytes = (raw.drop 10).take Cds.size := by
  have hstart : Header.size + sharedSize = 10 := rfl
  have hsecondary := c.secondary
  rw [telemetry] at hsecondary
  have hformat : (raw.drop 10).getD 0 0 = 0x40 := by
    rw [Bytes.getD_drop]
    exact hsecondary.2
  have hread := time_ofSpan p.header raw
  rw [← c.eq_ofSpan, telemetry, hstart] at hread
  have hsome : p.time.isSome = true := by
    rw [c.eq_ofSpan, isSome_time_ofSpan c.holds, hstart, hsecondary.2]
    exact ⟨telemetry, rfl⟩
  cases hstamp : Cds.ofBytes? (raw.drop 10) with
  | error cause =>
    rw [hstamp] at hread
    rw [hread] at hsome
    exact nomatch hsome
  | ok time =>
    rw [hstamp] at hread
    exact ⟨time, hread, Cds.toBytes_eq_take hstamp hformat⟩

end Canonical

end Packet

/-! ### Creating a packet again -/

open Packet

variable {raw : Bytes} {p : Packet}

/-- **A canonical telecommand** is created again from its fields. -/
theorem Telecommand.toBytes_eq_of_canonical (c : Canonical raw p)
    (telecommand : p.header.kind = .telecommand) :
    ∃ t, make (UInt16.ofNat p.header.apid.val) p.service p.subservice
        (UInt16.ofNat p.header.sequence.val) p.data = .ok t ∧
      ((t.withAck (UInt8.ofNat p.ack.val)).withSource p.subcounter).toBytes = raw := by
  have hfits : p.data.length ≤ maxData := by
    have hfits := c.data_fits
    rw [telecommand] at hfits
    exact hfits
  rw [make, dif_pos hfits]
  refine ⟨_, rfl, ?_⟩
  rw [Apid.ofWord_ofNat, SequenceCount.ofWord_ofNat, withAck, withSource, AckFlags.ofOctet_ofNat]
  have hheader := c.header_eq_alone
  rw [telecommand] at hheader
  -- The first octet of the secondary header holds version and flags.
  have hfirst : UInt8.ofNat (Version.pusA.code * 16 + p.ack.val) = raw.getD 6 0 := by
    have hack : p.ack.val = (raw.getD 6 0).toNat % 16 := by rw [c.eq_ofSpan]; rfl
    have hversion := c.secondary
    rw [telecommand] at hversion
    dsimp only at hversion
    refine Bytes.ofNat_eq_of_mod _ ?_
    rw [hack, Version.code]
    omega
  have hsecondary := c.secondaryHeader_eq
  rw [telecommand] at hsecondary
  rw [toBytes, covered, secondary, hfirst]
  dsimp only
  rw [← hsecondary, header]
  refine Eq.trans ?_ c.eq_close.symm
  rw [hheader]
  rfl

/-- **Canonical telemetry** is created again from its fields. -/
theorem Telemetry.toBytes?_eq_of_canonical (c : Canonical raw p)
    (telemetry : p.header.kind = .telemetry) :
    ∃ time, p.time = some time ∧
      toBytes? ⟨UInt16.ofNat p.header.apid.val, p.service, p.subservice,
        UInt16.ofNat p.header.sequence.val, p.subcounter, time, p.data⟩ = .ok raw := by
  obtain ⟨time, htime, hstamp⟩ := c.time_eq telemetry
  refine ⟨time, htime, ?_⟩
  have hfits : p.data.length ≤ maxData := by
    have hfits := c.data_fits
    rw [telemetry] at hfits
    exact hfits
  have hheader := c.header_eq_alone
  rw [telemetry] at hheader
  have hfirst : UInt8.ofNat (Version.pusA.code * 16) = raw.getD 6 0 := by
    have hsecondary := c.secondary
    rw [telemetry] at hsecondary
    exact hsecondary.1.symm
  have hsecondary := c.secondaryHeader_eq
  rw [telemetry] at hsecondary
  have hclose := c.eq_close
  rw [hsecondary] at hclose
  rw [toBytes?, if_pos hfits, covered, header, Header.alone, Apid.ofWord_ofNat,
    SequenceCount.ofWord_ofNat, secondary, hfirst, hstamp]
  refine congrArg Except.ok (Eq.trans ?_ hclose.symm)
  rw [hheader]
  rfl

namespace Packet

/-- **Packets are written as they were read.**  A canonical packet is created again, octet by octet,
from the fields that a receiver reads in it.  So canonical packets in which the same fields are read
are the same. -/
theorem Canonical.recreates (c : Canonical raw p) :
    (match p.header.kind with
      | .telecommand => ∃ t, Telecommand.make (UInt16.ofNat p.header.apid.val) p.service p.subservice
            (UInt16.ofNat p.header.sequence.val) p.data = .ok t ∧
          let u := (t.withAck (UInt8.ofNat p.ack.val)).withSource p.subcounter
          u.toBytes = raw ∧ u.writeTo (List.replicate u.size 0) = .ok (u.size, raw)
      | .telemetry => ∃ time, p.time = some time ∧
          Telemetry.toBytes? ⟨UInt16.ofNat p.header.apid.val, p.service, p.subservice,
            UInt16.ofNat p.header.sequence.val, p.subcounter, time, p.data⟩ = .ok raw) ∧
      ∀ {raw' : Bytes} {p' : Packet}, Canonical raw' p' → p'.fields = p.fields → raw' = raw := by
  constructor
  · cases hkind : p.header.kind with
    | telecommand =>
      obtain ⟨t, hmake, hraw⟩ := Telecommand.toBytes_eq_of_canonical c hkind
      have hwrite := ((t.withAck (UInt8.ofNat p.ack.val)).withSource p.subcounter).writeTo_zeros
      rw [hraw] at hwrite
      exact ⟨t, hmake, hraw, hwrite⟩
    | telemetry => exact Telemetry.toBytes?_eq_of_canonical c hkind
  · intro raw' p' c' hfields
    -- Equal fields go to the same creator, so that the octets are equal.
    rw [fields, fields, Fields.mk.injEq] at hfields
    obtain ⟨hkind', hapid, hservice, hsubservice, hsequence, hack, hsubcounter, htime, hdata⟩ :=
      hfields
    cases hkind : p.header.kind with
    | telecommand =>
      obtain ⟨t, hmake, hraw⟩ := Telecommand.toBytes_eq_of_canonical c hkind
      obtain ⟨t', hmake', hraw'⟩ :=
        Telecommand.toBytes_eq_of_canonical c' (hkind'.trans hkind)
      rw [hapid, hservice, hsubservice, hsequence, hdata, hmake] at hmake'
      rw [← hraw', ← hraw, Except.ok.inj hmake', hack, hsubcounter]
    | telemetry =>
      obtain ⟨time, hsome, hraw⟩ := Telemetry.toBytes?_eq_of_canonical c hkind
      obtain ⟨time', hsome', hraw'⟩ :=
        Telemetry.toBytes?_eq_of_canonical c' (hkind'.trans hkind)
      rw [htime, hsome] at hsome'
      rw [hapid, hservice, hsubservice, hsequence, hsubcounter, hdata,
        ← Option.some.inj hsome', hraw] at hraw'
      exact (Except.ok.inj hraw').symm

/-- A telecommand whose fields all differ from their defaults, and telemetry with a timestamp. -/
theorem Canonical.recreates_both :
    let telecommand : Bytes := [0x1F, 0xFF, 0xFF, 0xFF, 0x00, 0x09, 0x1F, 0x03, 0x1B, 0x42,
      0x01, 0x02, 0x03, 0x04, 0x1A, 0x11]
    let telemetry : Bytes := [0x08, 0x73, 0xD2, 0x34, 0x00, 0x0E, 0x10, 0x05, 0x02, 0x03,
      0x40, 0x59, 0xD8, 0x00, 0x00, 0x03, 0xE8, 0xDE, 0xAD, 0xBB, 0xA6]
    Canonical telecommand (decodeLenient telecommand) ∧
      Canonical telemetry (decodeLenient telemetry) ∧
      (∃ t, Telecommand.make 0x7FF 3 27 0x3FFF [1, 2, 3, 4] = .ok t ∧
        ((t.withAck 15).withSource 0x42).toBytes = telecommand) ∧
      Telemetry.toBytes? ⟨0x73, 5, 2, 0x1234, 3, ⟨23000, 1000⟩, [0xDE, 0xAD]⟩ =
        .ok telemetry := by
  intro telecommand telemetry
  have htelecommand : Canonical telecommand (decodeLenient telecommand) :=
    ⟨rfl, by decide +kernel, rfl, by decide, rfl, rfl,
      (by decide : (telecommand.getD 6 0).toNat / 16 = 1)⟩
  have htelemetry : Canonical telemetry (decodeLenient telemetry) :=
    ⟨rfl, by decide +kernel, rfl, by decide, rfl, rfl, rfl, rfl⟩
  obtain ⟨t, hmake, hraw, -⟩ := htelecommand.recreates.1
  have hack : UInt8.ofNat (decodeLenient telecommand).ack.val = 15 := by decide
  have hsource : (decodeLenient telecommand).subcounter = 0x42 := rfl
  rw [hack, hsource] at hraw
  obtain ⟨time, htime, hagain⟩ := htelemetry.recreates.1
  obtain rfl : time = ⟨23000, 1000⟩ := (Option.some.inj htime).symm
  exact ⟨htelecommand, htelemetry, ⟨t, hmake, hraw⟩, hagain⟩

end Packet

end GroundLink
