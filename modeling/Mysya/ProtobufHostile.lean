import Mysya.ProtobufCodec

/-!
# The protobuf codec on any bytes

What `ProtobufCodec::OnMessage` and `AppServer::OnReceive` make of a buffer
whose content nobody vouches for. `OnMessage` checks the length of a frame
against that of the type length only, and the type length not at all; a frame
it does not take stays in the buffer, and so does everything behind it.
-/

namespace Mysya

open GuardedRuns

/-- The fields of the header at the front of `bytes`, as `OnMessage` reads them. -/
def protocolBytesAt (bytes : List UInt8) : Int :=
  toInt32 (LittleEndian.value (bytes.take 4))

def typeBytesAt (bytes : List UInt8) : Int :=
  toInt16 (LittleEndian.value ((bytes.drop 4).take 2))

def typeNameAt (bytes : List UInt8) : List UInt8 :=
  (bytes.drop 8).take (typeBytesAt bytes).toNat

theorem protocolBytesAt_append {bytes : List UInt8} (h : 4 ≤ bytes.length) (rest : List UInt8) :
    protocolBytesAt (bytes ++ rest) = protocolBytesAt bytes := by
  rw [protocolBytesAt, List.take_append_of_le_length h, protocolBytesAt]

theorem typeBytesAt_append {bytes : List UInt8} (h : 6 ≤ bytes.length) (rest : List UInt8) :
    typeBytesAt (bytes ++ rest) = typeBytesAt bytes := by
  have hdrop : 2 ≤ (bytes.drop 4).length := by simp; omega
  rw [typeBytesAt, List.drop_append_of_le_length (by omega),
    List.take_append_of_le_length hdrop, typeBytesAt]

theorem typeNameAt_append {bytes : List UInt8} (h : 8 + typeBytesAt bytes ≤ bytes.length)
    (hlong : 8 ≤ bytes.length) (rest : List UInt8) :
    typeNameAt (bytes ++ rest) = typeNameAt bytes := by
  have hdrop : (typeBytesAt bytes).toNat ≤ (bytes.drop 8).length := by simp; omega
  rw [typeNameAt, typeBytesAt_append (by omega), List.drop_append_of_le_length hlong,
    List.take_append_of_le_length hdrop, typeNameAt]

/-- The checks of `OnMessage` let the header pass. -/
structure Admitted (memory : List UInt8) (readableBytes : Nat) : Prop where
  four_le : 4 ≤ protocolBytesAt memory
  protocol_le : protocolBytesAt memory ≤ toInt32 readableBytes

instance (memory : List UInt8) (readableBytes : Nat) :
    Decidable (Admitted memory readableBytes) :=
  decidable_of_iff (4 ≤ protocolBytesAt memory ∧ protocolBytesAt memory ≤ toInt32 readableBytes)
    ⟨fun h => ⟨h.1, h.2⟩, fun h => ⟨h.1, h.2⟩⟩

/-- The two fields lie in a frame of the length that the first one gives. -/
structure FieldsFit (bytes : List UInt8) : Prop where
  header : 8 ≤ protocolBytesAt bytes
  type_nonneg : 0 ≤ typeBytesAt bytes
  type_le : typeBytesAt bytes ≤ protocolBytesAt bytes - 8

theorem FieldsFit.of_append {bytes rest : List UInt8} (h : FieldsFit (bytes ++ rest))
    (hlong : 6 ≤ bytes.length) : FieldsFit bytes := by
  have hprotocol := protocolBytesAt_append (Nat.le_trans (by decide : 4 ≤ 6) hlong) rest
  have htype := typeBytesAt_append hlong rest
  obtain ⟨hheader, hnonneg, hle⟩ := h
  constructor
  · omega
  · omega
  · omega

theorem FieldsFit.append {bytes : List UInt8} (h : FieldsFit bytes) (hlong : 6 ≤ bytes.length)
    (rest : List UInt8) : FieldsFit (bytes ++ rest) := by
  have hprotocol := protocolBytesAt_append (Nat.le_trans (by decide : 4 ≤ 6) hlong) rest
  have htype := typeBytesAt_append hlong rest
  obtain ⟨hheader, hnonneg, hle⟩ := h
  constructor
  · omega
  · omega
  · omega

theorem Admitted.four_le_length {memory : List UInt8} {n : Nat} (h : Admitted memory n) :
    4 ≤ n := by
  obtain ⟨hfour, hle⟩ := h
  have := toInt32_le n
  omega

theorem admitted_append {bytes : List UInt8} (rest : List UInt8) :
    Admitted (bytes ++ rest) bytes.length ↔ Admitted bytes bytes.length := by
  constructor
  · intro h
    have hprotocol := protocolBytesAt_append h.four_le_length rest
    exact ⟨hprotocol ▸ h.four_le, hprotocol ▸ h.protocol_le⟩
  · intro h
    have hprotocol := protocolBytesAt_append h.four_le_length rest
    exact ⟨hprotocol ▸ h.four_le, hprotocol ▸ h.protocol_le⟩

/-- A header that passes the checks though its fields do not fit. -/
def Misfit (bytes : List UInt8) : Prop := Admitted bytes bytes.length ∧ ¬ FieldsFit bytes

namespace ProtobufLibrary

variable {Message : Type} (lib : ProtobufLibrary Message)

/-- What a round makes of a header it has let pass. -/
def decode (memory : List UInt8) : Option (ProtobufRound Message) :=
  if memory.length < 6 then none
  else if typeBytesAt memory < 0 then some (.leave .thrown)
  else if memory.length < 8 + typeBytesAt memory then none
  else
    match lib.createMessage (typeNameAt memory) with
    | none => some (.leave .failed)
    | some message =>
      some (.frame (protocolBytesAt memory) (lib.parseFromArray message
        (memory.drop (8 + (typeBytesAt memory).toNat))
        (protocolBytesAt memory - 4 - 4 - typeBytesAt memory)))

theorem round_eq (buffer : DynamicBuffer) :
    lib.round buffer = if Admitted buffer.readBegin buffer.readableBytes then
      lib.decode buffer.readBegin else some .stop := by
  by_cases hadmitted : Admitted buffer.readBegin buffer.readableBytes
  · obtain ⟨hfour, hle⟩ := hadmitted
    rw [if_pos ⟨hfour, hle⟩]
    simp only [protocolBytesAt] at hfour hle
    simp only [round, if_neg (show ¬ (toInt32 buffer.readableBytes ≤ 0 ∨
      toInt32 buffer.readableBytes < 4) by omega), if_neg (Int.not_lt.mpr hle),
      if_neg (Int.not_lt.mpr hfour)]
    rfl
  · rw [if_neg hadmitted]
    simp only [round]
    split
    · rfl
    · split
      · rfl
      · split
        · rfl
        · rename_i hle hfour
          exact absurd ⟨Int.not_lt.mp hfour, Int.not_lt.mp hle⟩ hadmitted

theorem decode_ne_stop (memory : List UInt8) : lib.decode memory ≠ some .stop := by
  simp only [decode]
  split
  · simp
  · split
    · simp
    · split
      · simp
      · split
        · simp
        · simp

/-- A round goes on to decode exactly behind a header that passes the checks. -/
theorem round_ne_stop {buffer : DynamicBuffer} :
    lib.round buffer ≠ some .stop ↔ Admitted buffer.readBegin buffer.readableBytes := by
  rw [round_eq]
  split
  · rename_i hadmitted
    exact ⟨fun _ => hadmitted, fun _ => lib.decode_ne_stop _⟩
  · rename_i hadmitted
    exact ⟨fun h => absurd rfl h, fun h => absurd h hadmitted⟩

/-- The buffers that the loop of `OnMessage` comes to, one for each round. -/
inductive Arrives : DynamicBuffer → DynamicBuffer → Prop where
  | here (buffer : DynamicBuffer) : Arrives buffer buffer
  | next {buffer last : DynamicBuffer} {protocolBytes : Int} {message : Option Message} :
      lib.round buffer = some (.frame protocolBytes message) →
      Arrives (buffer.readBytes (toSizeT protocolBytes)) last → Arrives buffer last

/-- The type name, the body and the bytes consumed lie in the frame at the front. -/
structure StaysInside (buffer : DynamicBuffer) : Prop where
  fields : FieldsFit buffer.readBegin
  protocol_le : protocolBytesAt buffer.readBegin ≤ buffer.readableBytes
  accesses : ∃ header name body rest beyond : List UInt8,
    buffer.readBegin = header ++ name ++ body ++ rest ++ beyond ∧
    buffer.readable = header ++ name ++ body ++ rest ∧
    header.length = 8 ∧ typeBytesAt buffer.readBegin = name.length ∧
    protocolBytesAt buffer.readBegin = (header ++ name ++ body).length ∧
    lib.round buffer = some (match lib.createMessage name with
      | none => .leave .failed
      | some message => .frame (protocolBytesAt buffer.readBegin)
          (lib.parseFromArray message (body ++ rest ++ beyond) body.length)) ∧
    (buffer.readBytes (toSizeT (protocolBytesAt buffer.readBegin))).readable = rest

/-- A whole frame of a registered type. -/
structure KnownFrame (frame : List UInt8) : Prop where
  fields : FieldsFit frame
  length : protocolBytesAt frame = frame.length
  known : lib.createMessage (typeNameAt frame) ≠ none

/-- What is left of the content behind whole frames of registered types, each short enough for
`readable_bytes`. -/
inductive FollowsFrames : List UInt8 → List UInt8 → Prop where
  | front (bytes : List UInt8) : FollowsFrames bytes bytes
  | next {frame rest last : List UInt8} : lib.KnownFrame frame →
      (frame.length : Int) ≤ toInt32 (frame ++ rest).length →
      FollowsFrames rest last → FollowsFrames (frame ++ rest) last

variable {lib}

/-- Four numbers that fit cut the memory into the fields of a frame and what follows it. -/
theorem round_inside {buffer : DynamicBuffer}
    (h : Admitted buffer.readBegin buffer.readableBytes) (fit : FieldsFit buffer.readBegin) :
    lib.StaysInside buffer := by
  obtain ⟨hheader, hnonneg, htype⟩ := fit
  obtain ⟨beyond, hbegin⟩ := buffer.readable_isPrefix
  have hlength := buffer.length_readable
  have hreadable := toInt32_le buffer.readableBytes
  have hprotocol := h.protocol_le
  obtain ⟨p, hp⟩ : ∃ p : Nat, protocolBytesAt buffer.readBegin = p :=
    ⟨(protocolBytesAt buffer.readBegin).toNat, by omega⟩
  obtain ⟨t, ht⟩ : ∃ t : Nat, typeBytesAt buffer.readBegin = t :=
    ⟨(typeBytesAt buffer.readBegin).toNat, by omega⟩
  have hsize : p < 2147483648 := by
    have := toInt32_range buffer.readableBytes
    omega
  have hcut : buffer.readable = buffer.readable.take 8 ++ (buffer.readable.drop 8).take t ++
      ((buffer.readable.drop 8).drop t).take (p - 8 - t) ++ buffer.readable.drop p := by
    have hsplit : buffer.readable.drop p = ((buffer.readable.drop 8).drop t).drop (p - 8 - t) := by
      simp only [List.drop_drop]
      congr 1
      omega
    rw [hsplit, List.append_assoc, List.take_append_drop, List.append_assoc,
      List.take_append_drop, List.take_append_drop]
  generalize hh : buffer.readable.take 8 = header at hcut
  generalize hn : (buffer.readable.drop 8).take t = name at hcut
  generalize hb : ((buffer.readable.drop 8).drop t).take (p - 8 - t) = body at hcut
  generalize hr : buffer.readable.drop p = rest at hcut
  have hheaderLength : header.length = 8 := by rw [← hh, List.length_take]; omega
  have hnameLength : name.length = t := by
    rw [← hn, List.length_take, List.length_drop]
    omega
  have hbodyLength : body.length = p - 8 - t := by
    rw [← hb, List.length_take, List.length_drop, List.length_drop]
    omega
  have hmemory : buffer.readBegin = header ++ name ++ body ++ rest ++ beyond := by
    rw [← hcut, hbegin]
  have hname : typeNameAt buffer.readBegin = name := by
    rw [typeNameAt, ht, Int.toNat_natCast, hmemory]
    simp only [List.append_assoc]
    rw [List.drop_left' hheaderLength, List.take_left' hnameLength]
  have hbody : buffer.readBegin.drop (8 + t) = body ++ rest ++ beyond := by
    rw [hmemory]
    simp only [List.append_assoc]
    rw [← List.append_assoc header]
    exact List.drop_left' (by rw [List.length_append]; omega)
  have hlong : p ≤ buffer.readBegin.length := by
    rw [hmemory]
    simp only [List.length_append]
    omega
  refine ⟨⟨hheader, hnonneg, htype⟩, by omega, header, name, body, rest, beyond, hmemory, hcut,
    hheaderLength, by omega, by simp only [List.length_append]; omega, ?_, ?_⟩
  · rw [round_eq, if_pos h, decode, if_neg (by omega), if_neg (by omega), if_neg (by omega), hname,
      hp, ht, Int.toNat_natCast, hbody]
    have hbodySize : (p : Int) - 4 - 4 - t = body.length := by omega
    rw [hbodySize]
    cases lib.createMessage name with
    | none => rfl
    | some message => rfl
  · rw [hp, toSizeT_natCast (by omega), DynamicBuffer.readable_readBytes, hr]

theorem fieldsFit_readBegin {buffer : DynamicBuffer}
    (h : Admitted buffer.readBegin buffer.readableBytes) :
    FieldsFit buffer.readBegin ↔ FieldsFit buffer.readable := by
  obtain ⟨beyond, hbegin⟩ := buffer.readable_isPrefix
  have hlength := buffer.length_readable
  have hreadable := toInt32_le buffer.readableBytes
  have hprotocol := h.protocol_le
  rw [← hbegin] at hprotocol ⊢
  have hfront := h.four_le_length
  rw [protocolBytesAt_append (by omega)] at hprotocol
  constructor
  · intro fit
    have hheader := fit.header
    rw [protocolBytesAt_append (by omega)] at hheader
    exact fit.of_append (by omega)
  · intro fit
    have hheader := fit.header
    exact fit.append (by omega) beyond

theorem admitted_readBegin {buffer : DynamicBuffer} :
    Admitted buffer.readBegin buffer.readableBytes ↔
      Admitted buffer.readable buffer.readable.length := by
  obtain ⟨beyond, hbegin⟩ := buffer.readable_isPrefix
  rw [← hbegin, ← buffer.length_readable]
  exact admitted_append beyond

/-- A round takes a whole frame of a registered type. -/
theorem round_known {buffer : DynamicBuffer} {frame rest : List UInt8}
    (known : lib.KnownFrame frame) (hbuffer : buffer.readable = frame ++ rest)
    (hsize : (frame.length : Int) ≤ toInt32 (frame ++ rest).length) :
    ∃ message, lib.round buffer = some (.frame frame.length message) ∧
      (buffer.readBytes (toSizeT frame.length)).readable = rest := by
  obtain ⟨fit, hlength, hknown⟩ := known
  have hheader := fit.header
  have hprotocol : protocolBytesAt buffer.readable = frame.length := by
    rw [hbuffer, protocolBytesAt_append (by omega), hlength]
  have admitted : Admitted buffer.readable buffer.readable.length := by
    constructor
    · omega
    · rwa [hprotocol, hbuffer]
  have fitReadable : FieldsFit buffer.readable := by
    rw [hbuffer]
    exact fit.append (by omega) rest
  have admittedBegin := admitted_readBegin.mpr admitted
  have inside : lib.StaysInside buffer :=
    round_inside admittedBegin ((fieldsFit_readBegin admittedBegin).mpr fitReadable)
  obtain ⟨_, -, header, name, body, rest', beyond, hmemory, hreadable, hheaderLength, htype,
    hframe, hround, hread⟩ := inside
  have hfront : protocolBytesAt buffer.readBegin = frame.length := by
    have hlong : 4 ≤ (header ++ name ++ body ++ rest').length := by
      simp only [List.length_append]
      omega
    rw [hmemory, protocolBytesAt_append hlong, ← hreadable, hprotocol]
  have hsame : frame = header ++ name ++ body ∧ rest = rest' :=
    List.append_inj (hbuffer.symm.trans hreadable) (by omega)
  have hname : typeNameAt frame = name := by
    have htypeFrame : typeBytesAt frame = name.length := by
      rw [← htype, hmemory, List.append_assoc, ← hsame.1, typeBytesAt_append (by omega)]
    rw [typeNameAt, htypeFrame, Int.toNat_natCast, hsame.1]
    simp only [List.append_assoc]
    rw [List.drop_left' hheaderLength, List.take_left' rfl]
  rw [hfront] at hround hread
  rw [hname] at hknown
  obtain ⟨message, hmessage⟩ := Option.ne_none_iff_exists'.mp hknown
  rw [hmessage] at hround
  exact ⟨_, hround, hsame.2 ▸ hread⟩

/-- A frame that a round takes with its fields inside is a known one. -/
theorem known_of_round {buffer : DynamicBuffer} {protocolBytes : Int} {message : Option Message}
    (h : lib.round buffer = some (.frame protocolBytes message))
    (inside : lib.StaysInside buffer) :
    ∃ frame, lib.KnownFrame frame ∧
      buffer.readable = frame ++ (buffer.readBytes (toSizeT protocolBytes)).readable ∧
      (frame.length : Int) ≤ toInt32 buffer.readable.length := by
  have admitted := lib.round_ne_stop.mp (show lib.round buffer ≠ some .stop by simp [h])
  obtain ⟨fit, -, header, name, body, rest, beyond, hmemory, hreadable, hheaderLength, htype,
    hframe, hround, hread⟩ := inside
  have hlong : 8 ≤ (header ++ name ++ body).length := by
    simp only [List.length_append]
    omega
  have hfront : buffer.readBegin = header ++ name ++ body ++ (rest ++ beyond) := by
    rw [hmemory, List.append_assoc]
  rw [h] at hround
  cases hmessage : lib.createMessage name with
  | none => simp [hmessage] at hround
  | some prototype =>
    simp only [hmessage, Option.some.injEq, ProtobufRound.frame.injEq] at hround
    rw [hround.1, hread]
    refine ⟨header ++ name ++ body, ⟨?_, ?_, ?_⟩, hreadable, ?_⟩
    · rw [hfront] at fit
      exact fit.of_append (by omega)
    · rw [← hframe, hfront]
      exact (protocolBytesAt_append (by omega) _).symm
    · rw [hfront, typeBytesAt_append (by omega)] at htype
      have hname : typeNameAt (header ++ name ++ body) = name := by
        rw [typeNameAt, htype, Int.toNat_natCast]
        simp only [List.append_assoc]
        rw [List.drop_left' hheaderLength, List.take_left' rfl]
      rw [hname, hmessage]
      exact Option.some_ne_none _
    · rw [← hframe, buffer.length_readable]
      exact admitted.protocol_le

/-- Whatever the buffer holds, all that `OnMessage` decodes lies inside its frame exactly when no
header behind whole frames of registered types passes the checks with fields that do not fit. -/
theorem decodes_inside (lib : ProtobufLibrary Message) (buffer : DynamicBuffer) :
    (∀ last, lib.Arrives buffer last → lib.round last ≠ some .stop → lib.StaysInside last) ↔
      ∀ last, lib.FollowsFrames buffer.readable last → ¬ Misfit last := by
  constructor
  · intro inside last hfollows
    generalize hcontent : buffer.readable = content at hfollows
    induction hfollows generalizing buffer with
    | front bytes =>
      rintro ⟨admitted, hmisfit⟩
      rw [← hcontent] at admitted hmisfit
      have admittedBegin := admitted_readBegin.mpr admitted
      have fields := (inside buffer (.here buffer) (lib.round_ne_stop.mpr admittedBegin)).fields
      exact hmisfit ((fieldsFit_readBegin admittedBegin).mp fields)
    | next known hsize _ ih =>
      obtain ⟨message, hround, hrest⟩ := round_known known hcontent hsize
      exact ih _ (fun last harrives => inside last (.next hround harrives)) hrest
  · intro fits last harrives
    induction harrives with
    | here buffer =>
      intro hround
      have admitted := lib.round_ne_stop.mp hround
      refine round_inside admitted ((fieldsFit_readBegin admitted).mpr ?_)
      by_contra hmisfit
      exact fits _ (.front _) ⟨admitted_readBegin.mp admitted, hmisfit⟩
    | @next buffer last protocolBytes message hround _ ih =>
      have admitted := lib.round_ne_stop.mp (show lib.round buffer ≠ some .stop by simp [hround])
      have fields : FieldsFit buffer.readBegin := by
        refine (fieldsFit_readBegin admitted).mpr ?_
        by_contra hmisfit
        exact fits _ (.front _) ⟨admitted_readBegin.mp admitted, hmisfit⟩
      obtain ⟨frame, known, hbuffer, hsize⟩ := known_of_round hround (round_inside admitted fields)
      refine ih fun last hfollows => fits last ?_
      rw [hbuffer] at hsize ⊢
      exact .next known hsize hfollows

/-- A frame that claims five bytes is decoded with a type name from behind it and a body of
minus four bytes. -/
theorem short_frame_decodes_outside :
    ¬ ∀ buffer last, ProtobufReceiver.plainLibrary.Arrives buffer last →
      ProtobufReceiver.plainLibrary.round last ≠ some .stop →
        ProtobufReceiver.plainLibrary.StaysInside last := by
  intro hall
  have inside := hall ((DynamicBuffer.new 16 8 (by decide)).append [5, 0, 0, 0, 1, 0, 0, 0, 7]) _
    (.here _) (ProtobufReceiver.plainLibrary.round_ne_stop.mpr (by decide))
  exact absurd inside.fields.header (by decide)

/-- A round takes what is at the front of the memory. -/
structure Takes (lib : ProtobufLibrary Message) (memory : List UInt8) (readableBytes : Nat) :
    Prop where
  admitted : Admitted memory readableBytes
  type_nonneg : 0 ≤ typeBytesAt memory
  name_le : 8 + typeBytesAt memory ≤ memory.length
  known : lib.createMessage (typeNameAt memory) ≠ none

theorem Takes.round {buffer : DynamicBuffer}
    (h : lib.Takes buffer.readBegin buffer.readableBytes) :
    ∃ message, lib.round buffer = some (.frame (protocolBytesAt buffer.readBegin) message) := by
  obtain ⟨admitted, hnonneg, hname, hknown⟩ := h
  obtain ⟨prototype, hprototype⟩ := Option.ne_none_iff_exists'.mp hknown
  rw [round_eq, if_pos admitted, decode, if_neg (by omega), if_neg (by omega), if_neg (by omega),
    hprototype]
  exact ⟨_, rfl⟩

theorem takes_of_round {buffer : DynamicBuffer} {protocolBytes : Int} {message : Option Message}
    (h : lib.round buffer = some (.frame protocolBytes message)) :
    lib.Takes buffer.readBegin buffer.readableBytes ∧
      protocolBytes = protocolBytesAt buffer.readBegin := by
  have admitted := lib.round_ne_stop.mp (show lib.round buffer ≠ some .stop by simp [h])
  rw [round_eq, if_pos admitted, decode] at h
  split at h
  · simp at h
  · split at h
    · simp at h
    · split at h
      · simp at h
      · rename_i hnonneg hlength
        cases hmessage : lib.createMessage (typeNameAt buffer.readBegin) with
        | none => simp [hmessage] at h
        | some prototype =>
          simp only [hmessage, Option.some.injEq, ProtobufRound.frame.injEq] at h
          exact ⟨⟨admitted, by omega, by omega, by simp [hmessage]⟩, h.1.symm⟩

/-- A frame that is taken leaves the memory behind it, or an empty buffer. -/
theorem Takes.readBytes {buffer : DynamicBuffer}
    (h : lib.Takes buffer.readBegin buffer.readableBytes) :
    (buffer.readBytes (toSizeT (protocolBytesAt buffer.readBegin))).readable.length <
        buffer.readable.length ∧
      (buffer.readBytes (toSizeT (protocolBytesAt buffer.readBegin))).readableBytes =
        buffer.readableBytes - (protocolBytesAt buffer.readBegin).toNat ∧
      (buffer.readableBytes ≠ (protocolBytesAt buffer.readBegin).toNat →
        (buffer.readBytes (toSizeT (protocolBytesAt buffer.readBegin))).readBegin =
          buffer.readBegin.drop (protocolBytesAt buffer.readBegin).toNat) := by
  obtain ⟨hfour, hle⟩ := h.admitted
  have hreadable := toInt32_le buffer.readableBytes
  have hrange := toInt32_range buffer.readableBytes
  obtain ⟨p, hp⟩ : ∃ p : Nat, protocolBytesAt buffer.readBegin = p :=
    ⟨(protocolBytesAt buffer.readBegin).toNat, by omega⟩
  rw [hp, toSizeT_natCast (by omega), Int.toNat_natCast]
  have hlength := buffer.length_readable
  have hread : (buffer.readBytes p).readable.length = buffer.readable.length - p := by
    rw [DynamicBuffer.readable_readBytes, List.length_drop]
  refine ⟨by omega, ?_, fun hsome => ?_⟩
  · rw [← DynamicBuffer.length_readable, hread, hlength]
  · have hinside := buffer.readInside
    have hbytes : buffer.readableBytes = buffer.writeIndex - buffer.readIndex := rfl
    rw [DynamicBuffer.readBytes, if_neg (by omega)]
    simp only [DynamicBuffer.readBegin, List.drop_drop]
    congr 1
    omega

/-- The loop ends in a round that takes nothing. -/
theorem exists_last (lib : ProtobufLibrary Message) (buffer : DynamicBuffer) :
    ∃ last, lib.Arrives buffer last ∧ ∀ p m, lib.round last ≠ some (.frame p m) := by
  induction hn : buffer.readable.length using Nat.strongRecOn generalizing buffer with
  | _ n ih =>
    by_cases hframe : ∃ p m, lib.round buffer = some (.frame p m)
    · obtain ⟨p, m, hround⟩ := hframe
      obtain ⟨takes, rfl⟩ := takes_of_round hround
      obtain ⟨last, harrives, hlast⟩ := ih _ (hn ▸ takes.readBytes.1) _ rfl
      exact ⟨last, .next hround harrives, hlast⟩
    · exact ⟨buffer, .here buffer, fun p m hround => hframe ⟨p, m, hround⟩⟩

/-- The loop does what its last round does. -/
theorem onMessageLoop_last {buffer last : DynamicBuffer} (h : lib.Arrives buffer last)
    (hlast : ∀ p m, lib.round last ≠ some (.frame p m)) (messageCb : Bool) {fuel : Nat}
    (hfuel : buffer.readable.length < fuel) (messages : List Message) (n : Int) :
    ∃ messages' n', lib.onMessageLoop messageCb fuel buffer messages n =
      lib.onMessageLoop messageCb 1 last messages' n' := by
  induction h generalizing fuel messages n with
  | here buffer =>
    refine ⟨messages, n, ?_⟩
    obtain ⟨fuel, rfl⟩ : ∃ m, fuel = m + 1 := ⟨fuel - 1, by omega⟩
    simp only [onMessageLoop_succ]
    split
    · rfl
    · rfl
    · rfl
    · rename_i p m hround
      exact absurd hround (hlast p m)
  | next hround _ ih =>
    obtain ⟨takes, rfl⟩ := takes_of_round hround
    have hshorter := takes.readBytes.1
    obtain ⟨fuel, rfl⟩ : ∃ m, fuel = m + 1 := ⟨fuel - 1, by omega⟩
    rw [onMessageLoop_succ, hround]
    exact ih hlast (by omega) _ _

theorem onMessage_last {buffer last : DynamicBuffer} (h : lib.Arrives buffer last)
    (hlast : ∀ p m, lib.round last ≠ some (.frame p m)) (messageCb : Bool) :
    ∃ messages n, lib.onMessage messageCb buffer =
      lib.onMessageLoop messageCb 1 last messages n :=
  onMessageLoop_last h hlast messageCb (by rw [buffer.length_readable]; omega) [] 0

end ProtobufLibrary

namespace AppServer

variable {Message : Type}

/-- `OnReceive`, with what is left in the buffer and the messages that came out of it; nothing
where the process does not get through. A negative result is logged, and that is all. -/
def onReceive (getProtobufCodec : Option (ProtobufLibrary Message)) (buffer : DynamicBuffer) :
    Option (DynamicBuffer × List Message) :=
  match getProtobufCodec with
  | none => some (buffer, [])
  | some codec =>
    match codec.onMessage true buffer with
    | none => none
    | some (_, _, .thrown) => none
    | some (buffer, messages, .failed) => some (buffer, messages)
    | some (buffer, messages, .bytes _) => some (buffer, messages)

/-- A chunk is appended and `OnReceive` called, with the messages so far. -/
def receive (getProtobufCodec : Option (ProtobufLibrary Message))
    (s : DynamicBuffer × List Message) (chunk : List UInt8) :
    Option (DynamicBuffer × List Message) :=
  match onReceive getProtobufCodec (s.1.append chunk) with
  | none => none
  | some (buffer, messages) => some (buffer, s.2 ++ messages)

end AppServer

namespace ProtobufLibrary

variable {Message : Type} {lib : ProtobufLibrary Message}

/-- The buffer is empty, or holds the beginning of a frame that a later call takes out. -/
def Recovers (lib : ProtobufLibrary Message) (buffer : DynamicBuffer) : Prop :=
  buffer.readable = [] ∨ ∃ missing, missing ≠ [] ∧ lib.KnownFrame (buffer.readable ++ missing) ∧
    ∃ later messages, AppServer.onReceive (some lib) (buffer.append missing) =
      some (later, messages) ∧ later.readable = []

/-- Frame after frame is long enough and of a registered type, and what is left at the end is
nothing or the beginning of such a frame. -/
inductive Digestible (lib : ProtobufLibrary Message) : List UInt8 → Nat → Prop where
  | empty (memory : List UInt8) : Digestible lib memory 0
  | part {memory missing : List UInt8} {readableBytes : Nat} : missing ≠ [] →
      lib.KnownFrame (memory.take readableBytes ++ missing) → Digestible lib memory readableBytes
  | frame {memory : List UInt8} {readableBytes : Nat} : lib.Takes memory readableBytes →
      Digestible lib (memory.drop (protocolBytesAt memory).toNat)
        (readableBytes - (protocolBytesAt memory).toNat) → Digestible lib memory readableBytes

theorem onReceive_stop {buffer last : DynamicBuffer} (h : lib.Arrives buffer last)
    (hstop : lib.round last = some .stop) :
    ∃ messages, AppServer.onReceive (some lib) buffer = some (last, messages) := by
  obtain ⟨messages, n, honMessage⟩ := onMessage_last h (by simp [hstop]) true
  rw [onMessageLoop_succ, hstop] at honMessage
  simp only [AppServer.onReceive, honMessage]
  exact ⟨messages, rfl⟩

theorem arrives_of_onReceive {buffer left : DynamicBuffer} {messages : List Message}
    (h : AppServer.onReceive (some lib) buffer = some (left, messages)) :
    lib.Arrives buffer left := by
  obtain ⟨last, harrives, hlast⟩ := lib.exists_last buffer
  obtain ⟨messages', n, honMessage⟩ := onMessage_last harrives hlast true
  rw [onMessageLoop_succ] at honMessage
  simp only [AppServer.onReceive, honMessage] at h
  cases hround : lib.round last with
  | none => simp [hround] at h
  | some r =>
    cases r with
    | stop =>
      simp only [hround, Option.some.injEq, Prod.mk.injEq] at h
      exact h.1 ▸ harrives
    | leave r =>
      cases r with
      | bytes n =>
        simp only [hround, Option.some.injEq, Prod.mk.injEq] at h
        exact h.1 ▸ harrives
      | failed =>
        simp only [hround, Option.some.injEq, Prod.mk.injEq] at h
        exact h.1 ▸ harrives
      | thrown => simp [hround] at h
    | frame p m => exact absurd hround (hlast p m)

/-- The beginning of a frame stays in the buffer until the rest of it has come. -/
theorem round_beginning {buffer : DynamicBuffer} {missing : List UInt8} (hmissing : missing ≠ [])
    (known : lib.KnownFrame (buffer.readable ++ missing)) :
    lib.round buffer = some .stop := by
  have hpos := List.length_pos_iff.mpr hmissing
  by_contra hround
  have admitted := admitted_readBegin.mp (lib.round_ne_stop.mp hround)
  have hle := admitted.protocol_le
  have hreadable := toInt32_le buffer.readable.length
  have hlength := known.length
  rw [protocolBytesAt_append admitted.four_le_length, List.length_append] at hlength
  omega

theorem recovers_beginning {buffer : DynamicBuffer} {missing : List UInt8} (hmissing : missing ≠ [])
    (known : lib.KnownFrame (buffer.readable ++ missing)) : lib.Recovers buffer := by
  have hrange := toInt32_range (LittleEndian.value ((buffer.readable ++ missing).take 4))
  have hlength := known.length
  rw [protocolBytesAt] at hlength
  have hwhole : (buffer.append missing).readable = buffer.readable ++ missing ++ [] := by simp
  obtain ⟨message, hround, hrest⟩ := round_known known hwhole
    (by rw [List.append_nil]; exact Int.le_of_eq (toInt32_of_lt (by omega)).symm)
  obtain ⟨messages, honReceive⟩ := onReceive_stop (.next hround (.here _)) (round_empty hrest)
  exact Or.inr ⟨missing, hmissing, known, _, messages, honReceive, hrest⟩

theorem digestible_arrives {buffer last : DynamicBuffer} (h : lib.Arrives buffer last)
    (hlast : lib.Digestible last.readBegin last.readableBytes) :
    lib.Digestible buffer.readBegin buffer.readableBytes := by
  induction h with
  | here => exact hlast
  | @next buffer last p m hround _ ih =>
    obtain ⟨takes, rfl⟩ := takes_of_round hround
    obtain ⟨-, hreadable, hmemory⟩ := takes.readBytes
    refine .frame takes ?_
    by_cases hall : buffer.readableBytes = (protocolBytesAt buffer.readBegin).toNat
    · rw [hall, Nat.sub_self]
      exact .empty _
    · rw [← hmemory hall, ← hreadable]
      exact ih hlast

theorem Digestible.arrives {buffer : DynamicBuffer}
    (h : lib.Digestible buffer.readBegin buffer.readableBytes) :
    ∃ last, lib.Arrives buffer last ∧ lib.round last = some .stop ∧ lib.Recovers last := by
  generalize hmemory : buffer.readBegin = memory at h
  generalize hreadable : buffer.readableBytes = readableBytes at h
  induction h generalizing buffer with
  | empty =>
    have hempty := DynamicBuffer.readableBytes_eq_zero.mp hreadable
    exact ⟨buffer, .here buffer, round_empty hempty, Or.inl hempty⟩
  | part hmissing known =>
    have htake : buffer.readable = buffer.readBegin.take buffer.readableBytes := by
      rw [← buffer.length_readable]
      exact List.prefix_iff_eq_take.mp buffer.readable_isPrefix
    rw [← hmemory, ← hreadable, ← htake] at known
    exact ⟨buffer, .here buffer, round_beginning hmissing known, recovers_beginning hmissing known⟩
  | frame takes _ ih =>
    rw [← hmemory, ← hreadable] at takes
    obtain ⟨message, hround⟩ := takes.round
    obtain ⟨-, hless, hbehind⟩ := takes.readBytes
    by_cases hall : buffer.readableBytes = (protocolBytesAt buffer.readBegin).toNat
    · rw [hall, Nat.sub_self] at hless
      have hempty := DynamicBuffer.readableBytes_eq_zero.mp hless
      exact ⟨_, .next hround (.here _), round_empty hempty, Or.inl hempty⟩
    · rw [← hmemory, ← hreadable] at ih
      obtain ⟨last, harrives, hlast⟩ := ih (hbehind hall) hless
      exact ⟨last, .next hround harrives, hlast⟩

/-- A call as `OnReceive` makes it leaves nothing, or the beginning of a frame that a later call
takes out, exactly when the buffer is digestible. -/
theorem receive_recovers (lib : ProtobufLibrary Message) (buffer : DynamicBuffer) :
    (∃ left messages, AppServer.onReceive (some lib) buffer = some (left, messages) ∧
        lib.Recovers left) ↔ lib.Digestible buffer.readBegin buffer.readableBytes := by
  constructor
  · rintro ⟨left, messages, honReceive, hrecovers⟩
    refine digestible_arrives (arrives_of_onReceive honReceive) ?_
    rcases hrecovers with hempty | ⟨missing, hmissing, known, -⟩
    · rw [DynamicBuffer.readableBytes_eq_zero.mpr hempty]
      exact .empty _
    · refine .part hmissing ?_
      have htake := List.prefix_iff_eq_take.mp left.readable_isPrefix
      rw [left.length_readable] at htake
      rwa [← htake]
  · intro digestible
    obtain ⟨last, harrives, hstop, hrecovers⟩ := digestible.arrives
    obtain ⟨messages, honReceive⟩ := onReceive_stop harrives hstop
    exact ⟨last, messages, honReceive, hrecovers⟩

/-- A whole header at the front that is never taken: its length is too small, or the frame is
there and of no registered type. -/
inductive Blocked (lib : ProtobufLibrary Message) (bytes : List UInt8) : Prop where
  | badLength : 4 ≤ bytes.length → protocolBytesAt bytes < 4 → Blocked lib bytes
  | unknownType : FieldsFit bytes → protocolBytesAt bytes ≤ bytes.length →
      lib.createMessage (typeNameAt bytes) = none → Blocked lib bytes

theorem Blocked.append {bytes : List UInt8} (h : lib.Blocked bytes) (rest : List UInt8) :
    lib.Blocked (bytes ++ rest) := by
  cases h with
  | badLength hlong hshort =>
    refine .badLength (by simp; omega) ?_
    rwa [protocolBytesAt_append hlong]
  | unknownType fit hle hunknown =>
    have hheader := fit.header
    have htype := fit.type_le
    refine .unknownType (fit.append (by omega) rest) ?_ ?_
    · rw [protocolBytesAt_append (by omega), List.length_append]
      omega
    · rwa [typeNameAt_append (by omega) (by omega)]

/-- What blocks the front stays there, and nothing comes out of the buffer. -/
theorem Blocked.onReceive {buffer : DynamicBuffer} (h : lib.Blocked buffer.readable) :
    AppServer.onReceive (some lib) buffer = some (buffer, []) := by
  have hround : lib.round buffer = some .stop ∨ lib.round buffer = some (.leave .failed) := by
    by_cases hadmitted : Admitted buffer.readBegin buffer.readableBytes
    · have admitted := admitted_readBegin.mp hadmitted
      cases h with
      | badLength hlong hshort => exact absurd admitted.four_le (by omega)
      | unknownType fit hle hunknown =>
        obtain ⟨beyond, hbegin⟩ := buffer.readable_isPrefix
        have hheader := fit.header
        have htype := fit.type_le
        have hnonneg := fit.type_nonneg
        have hname : typeNameAt buffer.readBegin = typeNameAt buffer.readable := by
          rw [← hbegin, typeNameAt_append (by omega) (by omega)]
        have htypeBytes : typeBytesAt buffer.readBegin = typeBytesAt buffer.readable := by
          rw [← hbegin, typeBytesAt_append (by omega)]
        have hmemory : buffer.readable.length ≤ buffer.readBegin.length :=
          buffer.readable_isPrefix.length_le
        right
        rw [round_eq, if_pos hadmitted, decode, if_neg (by omega), if_neg (by omega),
          if_neg (by omega), hname, hunknown]
    · left
      rw [round_eq, if_neg hadmitted]
  rcases hround with hstop | hfailed
  · simp [AppServer.onReceive, onMessage, onMessageLoop_succ, hstop]
  · simp [AppServer.onReceive, onMessage, onMessageLoop_succ, hfailed]

/-- A blocked stream stays blocked, however it goes on. -/
theorem Blocked.run {s : DynamicBuffer × List Message} (h : lib.Blocked s.1.readable)
    (chunks : List (List UInt8)) :
    ∃ left, run (AppServer.receive (some lib)) chunks s = some (left, s.2) ∧
      left.readable = s.1.readable ++ chunks.flatten := by
  induction chunks generalizing s with
  | nil => exact ⟨s.1, rfl, by simp⟩
  | cons chunk chunks ih =>
    have hblocked : lib.Blocked (s.1.append chunk).readable := by
      rw [DynamicBuffer.readable_append]
      exact h.append chunk
    obtain ⟨left, hrun, hleft⟩ := @ih (s.1.append chunk, s.2) hblocked
    refine ⟨left, ?_, ?_⟩
    · simp only [GuardedRuns.run, AppServer.receive, hblocked.onReceive, List.append_nil,
        Option.bind_some]
      exact hrun
    · rw [hleft, DynamicBuffer.readable_append, List.flatten_cons, List.append_assoc]

/-- A frame of a type that is not registered stays at the front, and the good frame behind it is
never delivered, whatever else is received. -/
theorem unknown_type_wedges :
    ∃ buffer : DynamicBuffer,
      buffer.readable = frameBytes [8] [] ++ frameBytes [7] [5] ∧
      (∀ left messages,
        AppServer.onReceive (some ProtobufReceiver.plainLibrary) buffer = some (left, messages) →
          ¬ ProtobufReceiver.plainLibrary.Recovers left) ∧
      ∀ chunks, ∃ left,
        run (AppServer.receive (some ProtobufReceiver.plainLibrary)) chunks (buffer, []) =
          some (left, []) := by
  have hreadable : ((DynamicBuffer.new 32 8 (by decide)).append
      (frameBytes [8] [] ++ frameBytes [7] [5])).readable = frameBytes [8] [] ++ frameBytes [7] [5] := by
    simp
  generalize (DynamicBuffer.new 32 8 (by decide)).append _ = buffer at hreadable
  have hblocked : ProtobufReceiver.plainLibrary.Blocked buffer.readable := by
    rw [hreadable]
    exact .unknownType ⟨by decide, by decide, by decide⟩ (by decide) (by decide)
  refine ⟨buffer, hreadable, ?_, fun chunks => ?_⟩
  · intro left messages hleft
    rw [hblocked.onReceive] at hleft
    cases hleft
    rintro (hempty | ⟨missing, -, known, -⟩)
    · rw [hreadable] at hempty
      exact absurd hempty (by decide)
    · have hlength := known.length
      rw [hreadable, protocolBytesAt_append (by decide), List.length_append] at hlength
      have hprotocol : protocolBytesAt (frameBytes [8] [] ++ frameBytes [7] [5]) = 9 := by decide
      have hframes : (frameBytes [8] [] ++ frameBytes [7] [5]).length = 19 := by decide
      omega
  · obtain ⟨left, hrun, -⟩ := @Blocked.run _ _ (buffer, []) hblocked chunks
    exact ⟨left, hrun⟩

end ProtobufLibrary

end Mysya
