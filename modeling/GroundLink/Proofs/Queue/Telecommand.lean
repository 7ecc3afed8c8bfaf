import GroundLink.Proofs.Packet.RoundTrip
import GroundLink.Proofs.Queue.Fields

/-!
# Telecommands of a script

The argument of a `tc` entry is three or four words: service, subservice, sequence count and, if
there are any, application data (`Queue.Describes`).  What can be wrong with it comes in an order
(`Queue.Fault`), and an argument is refused for the first of these faults that it has.

`Queue.ofTag_telecommand` is the whole of it: which arguments are read, what telecommand is made of
them, what a receiver reads in its packet, and why the others are refused.
-/

namespace GroundLink.Queue

/-- Fields describe a telecommand. -/
inductive Describes : List (List Char) → UInt8 → UInt8 → UInt16 → Bytes → Prop
  /-- Without application data. -/
  | plain {a b c : List Char} {service subservice : UInt8} {sequence : UInt16} :
      Number.Writes a service.toNat → Number.Writes b subservice.toNat →
      Number.Writes c sequence.toNat → Describes [a, b, c] service subservice sequence []
  /-- With application data. -/
  | withData {a b c word : List Char} {service subservice : UInt8} {sequence : UInt16}
      {data : Bytes} :
      Number.Writes a service.toNat → Number.Writes b subservice.toNat →
      Number.Writes c sequence.toNat → Bytes.WritesHex word data →
      Describes [a, b, c, word] service subservice sequence data

/-- Fields that are read: three numbers, each below its bound, and then nothing or one word of an
even number of hexadecimal digits, for no more data than fit into one packet. -/
def Accepts (fields : List (List Char)) : Prop :=
  ∃ a b c rest, fields = a :: b :: c :: rest ∧ (∃ n ≤ 255, Number.Writes a n) ∧
    (∃ n ≤ 255, Number.Writes b n) ∧ (∃ n ≤ 65535, Number.Writes c n) ∧
    (rest = [] ∨ ∃ word, rest = [word] ∧ Bytes.IsHex word ∧ word.length / 2 ≤ 65530)

/-- The numbers of a telecommand, each with its greatest value. -/
def numbers : List (Argument × Nat) := [(.service, 255), (.subservice, 255), (.sequence, 65535)]

/-- What may be wrong with the fields of a telecommand, each with its rank and the reason for which
it is refused. -/
inductive Fault (fields : List (List Char)) : Nat → Entry.Error → Prop
  /-- A number is missing. -/
  | missing {i limit : Nat} {argument : Argument} : numbers[i]? = some (argument, limit) →
      fields.length ≤ i → Fault fields i (.missing argument)
  /-- A field is no number, or too great. -/
  | number {i limit : Nat} {argument : Argument} {word : List Char} :
      numbers[i]? = some (argument, limit) → fields[i]? = some word →
      (∀ n ≤ limit, ¬ Number.Writes word n) →
      Fault fields (i + 3) (.invalid "tc" (String.ofList word))
  /-- The data are not in hexadecimal digits. -/
  | data {word : List Char} : fields[3]? = some word → ¬ Bytes.IsHex word →
      Fault fields 6 (.invalid "tc" (String.ofList word))
  /-- There is a field too many. -/
  | extra {word : List Char} : fields[4]? = some word →
      Fault fields 7 (.invalid "tc" (String.ofList word))
  /-- The data do not fit into one packet. -/
  | size {word : List Char} : fields[3]? = some word → 65530 < word.length / 2 →
      Fault fields 8 (.packet (.appDataTooLarge (word.length / 2)))

/-- The fields have no fault of a rank below some. -/
def Clean (fields : List (List Char)) (rank : Nat) : Prop :=
  ∀ earlier < rank, ∀ cause, ¬ Fault fields earlier cause

/-- The reason for which fields are refused: their first fault. -/
def FirstFault (fields : List (List Char)) (cause : Entry.Error) : Prop :=
  ∃ rank, Fault fields rank cause ∧ Clean fields rank

variable {fields : List (List Char)} {rank : Nat} {cause other : Entry.Error}

/-! ### Faults -/

/-- There is one fault of each rank. -/
theorem Fault.unique (fault : Fault fields rank cause) (fault' : Fault fields rank other) :
    cause = other := by
  cases fault <;> cases fault' <;> simp_all [numbers]

theorem FirstFault.unique (first : FirstFault fields cause) (first' : FirstFault fields other) :
    cause = other := by
  obtain ⟨rank, hfault, hclean⟩ := first
  obtain ⟨rank', hfault', hclean'⟩ := first'
  rcases Nat.lt_trichotomy rank rank' with hlt | rfl | hlt
  · exact absurd hfault (hclean' rank hlt cause)
  · exact hfault.unique hfault'
  · exact absurd hfault' (hclean rank' hlt other)

theorem Clean.succ (clean : Clean fields rank) (none : ∀ cause, ¬ Fault fields rank cause) :
    Clean fields (rank + 1) := by
  intro earlier hearlier cause
  rcases Nat.lt_succ_iff_lt_or_eq.mp hearlier with hlt | rfl
  · exact clean earlier hlt cause
  · exact none cause

/-- There are three numbers. -/
theorem lt_of_numbers {i limit : Nat} {argument : Argument}
    (hnumber : numbers[i]? = some (argument, limit)) : i < 3 :=
  (List.getElem?_eq_some_iff.mp hnumber).1

/-- No number is missing for which there is a field. -/
theorem clean_of_le_length {count : Nat} (few : count ≤ 3) (there : count ≤ fields.length) :
    Clean fields count := by
  intro earlier hearlier cause fault
  cases fault with
  | missing | number | data | extra | size => omega

/-- Where the number is written, there is no fault. -/
theorem Clean.number {i limit n : Nat} {argument : Argument} {word : List Char}
    (clean : Clean fields (i + 3)) (hnumber : numbers[i]? = some (argument, limit))
    (hword : fields[i]? = some word) (fits : n ≤ limit) (writes : Number.Writes word n) :
    Clean fields (i + 4) := by
  refine clean.succ fun cause fault => ?_
  have hthree := lt_of_numbers hnumber
  cases fault with
  | missing hnumber' =>
    have hbeyond := lt_of_numbers hnumber'
    omega
  | number hnumber' hword' hnone =>
    rw [hnumber, Option.some_inj, Prod.mk.injEq] at hnumber'
    rw [hword, Option.some_inj] at hword'
    rw [← hnumber'.2, ← hword'] at hnone
    exact hnone n fits writes
  | data | extra | size => omega

/-- Where data in hexadecimal digits are all that follows, there is no fault. -/
theorem Clean.data (clean : Clean fields 6)
    (hex : ∀ word, fields[3]? = some word → Bytes.IsHex word) : Clean fields 7 := by
  refine clean.succ fun cause fault => ?_
  cases fault with
  | missing hnumber | number hnumber => cases hnumber
  | data hword hnone => exact hnone (hex _ hword)

theorem Clean.extra (clean : Clean fields 7) (none : fields[4]? = none) : Clean fields 8 := by
  refine clean.succ fun cause fault => ?_
  cases fault with
  | missing hnumber | number hnumber => cases hnumber
  | extra hword =>
    rw [none] at hword
    cases hword

/-! ### One field -/

theorem numberField_cases (bound : Nat) (word : List Char) :
    (∃ n < bound, Number.Writes word n ∧ numberField bound word = .ok n) ∨
      (∀ n < bound, ¬ Number.Writes word n) ∧
        numberField bound word = .error (.invalid "tc" (String.ofList word)) := by
  unfold numberField
  cases hread : Number.naturalBelow? bound word with
  | some n =>
    obtain ⟨hwrites, hlt⟩ := Number.naturalBelow?_eq_some_iff.mp hread
    exact .inl ⟨n, hlt, hwrites, rfl⟩
  | none =>
    refine .inr ⟨fun n hlt hwrites => ?_, rfl⟩
    rw [Number.naturalBelow?_eq_some_iff.mpr ⟨hwrites, hlt⟩] at hread
    cases hread

theorem numberField_of_writes {bound n : Nat} {word : List Char} (writes : Number.Writes word n)
    (fits : n < bound) : numberField bound word = .ok n := by
  rw [numberField, Number.naturalBelow?_eq_some_iff.mpr ⟨writes, fits⟩]

theorem dataField_of_writes {word : List Char} {data : Bytes}
    (writes : Bytes.WritesHex word data) : dataField word = .ok data := by
  rw [dataField, Bytes.ofHex?_eq_some_iff.mpr writes]

theorem dataField_cases (word : List Char) :
    (∃ data, Bytes.WritesHex word data ∧ dataField word = .ok data) ∨
      ¬ Bytes.IsHex word ∧ dataField word = .error (.invalid "tc" (String.ofList word)) := by
  unfold dataField
  cases hread : Bytes.ofHex? word with
  | some data => exact .inl ⟨data, Bytes.ofHex?_eq_some_iff.mp hread, rfl⟩
  | none =>
    refine .inr ⟨fun hex => ?_, rfl⟩
    rw [← Bytes.ofHex?_isSome_iff, hread] at hex
    cases hex

/-- A packet takes data up to a size. -/
theorem packEntry_cases (apid : UInt16) (service subservice : UInt8) (sequence : UInt16)
    (data : Bytes) :
    (∃ t, data.length ≤ 65530 ∧ Telecommand.make apid service subservice sequence data = .ok t ∧
      packEntry apid service.toNat subservice.toNat sequence.toNat data =
        .ok (.telecommand t.pack)) ∨
    65530 < data.length ∧ packEntry apid service.toNat subservice.toNat sequence.toNat data =
      .error (.packet (.appDataTooLarge data.length)) := by
  rw [packEntry, UInt8.ofNat_toNat, UInt8.ofNat_toNat, UInt16.ofNat_toNat, Telecommand.make]
  by_cases fits : data.length ≤ Telecommand.maxData
  · rw [dif_pos fits]
    exact .inl ⟨_, fits, rfl, rfl⟩
  · rw [dif_neg fits]
    exact .inr ⟨Nat.lt_of_not_le fits, rfl⟩

/-! ### All fields -/

/-- Where nothing is wrong in front of a number, the number is read and nothing is wrong with it
either, or it is the first fault. -/
theorem Clean.number_cases {i limit : Nat} {argument : Argument} {word : List Char}
    (clean : Clean fields (i + 3)) (hnumber : numbers[i]? = some (argument, limit))
    (hword : fields[i]? = some word) :
    (∃ n < limit + 1, Number.Writes word n ∧ numberField (limit + 1) word = .ok n ∧
      Clean fields (i + 4)) ∨
    ∃ cause, FirstFault fields cause ∧ numberField (limit + 1) word = .error cause := by
  rcases numberField_cases (limit + 1) word with ⟨n, hn, hwrites, hread⟩ | ⟨hnone, hrefused⟩
  · exact .inl ⟨n, hn, hwrites, hread,
      clean.number hnumber hword (Nat.le_of_lt_succ hn) hwrites⟩
  · have hfault : Fault fields (i + 3) (.invalid "tc" (String.ofList word)) :=
      .number hnumber hword fun n hn => hnone n (Nat.lt_succ_of_le hn)
    exact .inr ⟨_, ⟨_, hfault, clean⟩, hrefused⟩

/-- Fields that describe a telecommand have no fault but the size of the data. -/
theorem Describes.clean {service subservice : UInt8} {sequence : UInt16} {data : Bytes}
    (describes : Describes fields service subservice sequence data) : Clean fields 8 := by
  have hnumbers : ∀ {a b c : List Char} {rest : List (List Char)},
      Number.Writes a service.toNat → Number.Writes b subservice.toNat →
      Number.Writes c sequence.toNat → Clean (a :: b :: c :: rest) 6 := by
    intro a b c rest ha hb hc
    have hthree : Clean (a :: b :: c :: rest) 3 :=
      clean_of_le_length (Nat.le_refl 3) (Nat.le_add_left 3 _)
    have hfour : Clean (a :: b :: c :: rest) 4 :=
      hthree.number (i := 0) rfl rfl (Nat.le_of_lt_succ service.toNat_lt) ha
    have hfive : Clean (a :: b :: c :: rest) 5 :=
      hfour.number (i := 1) rfl rfl (Nat.le_of_lt_succ subservice.toNat_lt) hb
    exact hfive.number (i := 2) rfl rfl (Nat.le_of_lt_succ sequence.toNat_lt) hc
  cases describes with
  | plain ha hb hc =>
    refine ((hnumbers ha hb hc).data ?_).extra rfl
    rintro word ⟨⟩
  | withData ha hb hc hdata =>
    refine ((hnumbers ha hb hc).data ?_).extra rfl
    rintro word ⟨⟩
    exact hdata.isHex

/-- **Fields describe a telecommand, or they are refused for their first fault.** -/
theorem describes_or_refused (apid : UInt16) (fields : List (List Char)) :
    (∃ service subservice sequence data, Describes fields service subservice sequence data) ∨
      ∃ cause, FirstFault fields cause ∧ ofFields apid fields = .error cause := by
  have hmissing : ∀ {i limit : Nat} {argument : Argument}, i ≤ 3 → fields.length = i →
      numbers[i]? = some (argument, limit) → FirstFault fields (.missing argument) := by
    intro i limit argument hi hlength hnumber
    exact ⟨i, .missing hnumber (Nat.le_of_eq hlength), clean_of_le_length hi hlength.ge⟩
  match fields with
  | [] => exact .inr ⟨_, hmissing (i := 0) (by decide) rfl rfl, rfl⟩
  | [a] => exact .inr ⟨_, hmissing (i := 1) (by decide) rfl rfl, rfl⟩
  | [a, b] => exact .inr ⟨_, hmissing (i := 2) (by decide) rfl rfl, rfl⟩
  | a :: b :: c :: rest =>
    have hthree : Clean (a :: b :: c :: rest) 3 :=
      clean_of_le_length (Nat.le_refl 3) (Nat.le_add_left 3 _)
    -- Each field is written, or it is the first fault.
    rcases hthree.number_cases (rfl : numbers[0]? = some (.service, 255)) rfl with
      ⟨n, hn, ha, hfirst, hfour⟩ | ⟨cause, hfault, hfirst⟩
    case inr => exact .inr ⟨cause, hfault, by rw [ofFields, hfirst]; rfl⟩
    rcases hfour.number_cases (rfl : numbers[1]? = some (.subservice, 255)) rfl with
      ⟨m, hm, hb, hsecond, hfive⟩ | ⟨cause, hfault, hsecond⟩
    case inr => exact .inr ⟨cause, hfault, by rw [ofFields, hfirst, hsecond]; rfl⟩
    rcases hfive.number_cases (rfl : numbers[2]? = some (.sequence, 65535)) rfl with
      ⟨k, hk, hc, hthird, hsix⟩ | ⟨cause, hfault, hthird⟩
    case inr => exact .inr ⟨cause, hfault, by rw [ofFields, hfirst, hsecond, hthird]; rfl⟩
    rw [← UInt8.toNat_ofNat_of_lt' hn] at ha
    rw [← UInt8.toNat_ofNat_of_lt' hm] at hb
    rw [← UInt16.toNat_ofNat_of_lt' hk] at hc
    -- Behind the numbers there may be data, and nothing else.
    match rest with
    | [] => exact .inl ⟨_, _, _, _, .plain ha hb hc⟩
    | word :: rest =>
      rcases dataField_cases word with ⟨data, hdata, hfourth⟩ | ⟨hnone, hfourth⟩
      case inr =>
        refine .inr ⟨_, ⟨6, .data rfl hnone, hsix⟩, ?_⟩
        rw [ofFields, hfirst, hsecond, hthird]
        cases rest <;> simp [bind, Except.bind, hfourth]
      match rest with
      | [] => exact .inl ⟨_, _, _, _, .withData ha hb hc hdata⟩
      | extra :: rest =>
        refine .inr ⟨_, ⟨7, .extra rfl, hsix.data ?_⟩, ?_⟩
        · rintro word ⟨⟩
          exact hdata.isHex
        · rw [ofFields, hfirst, hsecond, hthird]
          simp [bind, Except.bind, hfourth, throw, throwThe, MonadExceptOf.throw]

theorem Describes.ofFields_eq {service subservice : UInt8} {sequence : UInt16} {data : Bytes}
    (describes : Describes fields service subservice sequence data) (apid : UInt16) :
    ofFields apid fields =
      packEntry apid service.toNat subservice.toNat sequence.toNat data := by
  cases describes with
  | plain ha hb hc =>
    rw [ofFields, numberField_of_writes ha service.toNat_lt,
      numberField_of_writes hb subservice.toNat_lt, numberField_of_writes hc sequence.toNat_lt]
    rfl
  | withData ha hb hc hdata =>
    rw [ofFields, numberField_of_writes ha service.toNat_lt,
      numberField_of_writes hb subservice.toNat_lt, numberField_of_writes hc sequence.toNat_lt]
    show (do packEntry _ _ _ _ (← dataField _)) = _
    rw [dataField_of_writes hdata]
    rfl

/-- Fields that describe a telecommand are refused for the size of the data, or not at all. -/
theorem Describes.firstFault_iff {service subservice : UInt8} {sequence : UInt16} {data : Bytes}
    (describes : Describes fields service subservice sequence data) : FirstFault fields cause ↔
      65530 < data.length ∧ cause = .packet (.appDataTooLarge data.length) := by
  constructor
  · rintro ⟨rank, fault, -⟩
    -- Only the last fault is left.
    have hlast : 8 ≤ rank := Nat.le_of_not_lt fun hlt => describes.clean rank hlt cause fault
    cases fault with
    | size hword hsize =>
      cases describes with
      | plain => cases hword
      | withData ha hb hc hdata =>
        cases hword
        rw [hdata.half_length] at hsize ⊢
        exact ⟨hsize, rfl⟩
    | missing hnumber | number hnumber =>
      have hthree := lt_of_numbers hnumber
      omega
    | data | extra => omega
  · rintro ⟨hsize, rfl⟩
    refine ⟨8, ?_, describes.clean⟩
    cases describes with
    | plain => exact absurd hsize (Nat.not_lt_zero _)
    | withData ha hb hc hdata =>
      rw [← hdata.half_length] at hsize ⊢
      exact .size rfl hsize

/-- **Fields are refused for their first fault.** -/
theorem ofFields_eq_error_iff (apid : UInt16) :
    ofFields apid fields = .error cause ↔ FirstFault fields cause := by
  rcases describes_or_refused apid fields with ⟨service, subservice, sequence, data, describes⟩ |
    ⟨other, hfirst, hrefused⟩
  · rw [describes.firstFault_iff, describes.ofFields_eq]
    rcases packEntry_cases apid service subservice sequence data with ⟨t, hfits, -, hpack⟩ |
      ⟨hsize, hpack⟩
    · rw [hpack]
      exact iff_of_false nofun fun h => absurd h.1 (Nat.not_lt.mpr hfits)
    · rw [hpack, and_iff_right hsize, Except.error.injEq, eq_comm]
  · rw [hrefused, Except.error.injEq]
    constructor
    · rintro rfl
      exact hfirst
    · exact hfirst.unique

/-- **Fields are read if they describe a telecommand whose data fit into one packet.** -/
theorem ofFields_eq_ok_iff (apid : UInt16) {e : Entry} : ofFields apid fields = .ok e ↔
    ∃ service subservice sequence data t, Describes fields service subservice sequence data ∧
      Telecommand.make apid service subservice sequence data = .ok t ∧
      e = .telecommand t.pack := by
  constructor
  · intro hread
    rcases describes_or_refused apid fields with
      ⟨service, subservice, sequence, data, describes⟩ | ⟨cause, -, hrefused⟩
    · rw [describes.ofFields_eq] at hread
      rcases packEntry_cases apid service subservice sequence data with ⟨t, -, hmake, hpack⟩ |
        ⟨-, hpack⟩
      · rw [hpack] at hread
        exact ⟨service, subservice, sequence, data, t, describes, hmake,
          (Except.ok.inj hread).symm⟩
      · rw [hpack] at hread
        cases hread
    · rw [hrefused] at hread
      cases hread
  · rintro ⟨service, subservice, sequence, data, t, describes, hmake, rfl⟩
    rw [describes.ofFields_eq, packEntry, UInt8.ofNat_toNat, UInt8.ofNat_toNat,
      UInt16.ofNat_toNat, hmake]

theorem accepts_iff : Accepts fields ↔ ∃ service subservice sequence data,
    Describes fields service subservice sequence data ∧ data.length ≤ 65530 := by
  constructor
  · rintro ⟨a, b, c, rest, rfl, ⟨n, hn, ha⟩, ⟨m, hm, hb⟩, ⟨k, hk, hc⟩, hrest⟩
    obtain ⟨service, rfl⟩ : ∃ x : UInt8, x.toNat = n :=
      ⟨_, UInt8.toNat_ofNat_of_lt' (Nat.lt_succ_of_le hn)⟩
    obtain ⟨subservice, rfl⟩ : ∃ x : UInt8, x.toNat = m :=
      ⟨_, UInt8.toNat_ofNat_of_lt' (Nat.lt_succ_of_le hm)⟩
    obtain ⟨sequence, rfl⟩ : ∃ x : UInt16, x.toNat = k :=
      ⟨_, UInt16.toNat_ofNat_of_lt' (Nat.lt_succ_of_le hk)⟩
    rcases hrest with rfl | ⟨word, rfl, hex, hsize⟩
    · exact ⟨_, _, _, _, .plain ha hb hc, Nat.zero_le _⟩
    · -- Two digits make an octet, so the bound on the word is one on the data.
      obtain ⟨data, hread⟩ := Option.isSome_iff_exists.mp (Bytes.ofHex?_isSome_iff.mpr hex)
      have hdata := Bytes.ofHex?_eq_some_iff.mp hread
      rw [hdata.half_length] at hsize
      exact ⟨_, _, _, _, .withData ha hb hc hdata, hsize⟩
  · rintro ⟨service, subservice, sequence, data, describes, hsize⟩
    have hservice := Nat.le_of_lt_succ service.toNat_lt
    have hsubservice := Nat.le_of_lt_succ subservice.toNat_lt
    have hsequence := Nat.le_of_lt_succ sequence.toNat_lt
    cases describes with
    | plain ha hb hc =>
      exact ⟨_, _, _, _, rfl, ⟨_, hservice, ha⟩, ⟨_, hsubservice, hb⟩, ⟨_, hsequence, hc⟩, .inl rfl⟩
    | withData ha hb hc hdata =>
      refine ⟨_, _, _, _, rfl, ⟨_, hservice, ha⟩, ⟨_, hsubservice, hb⟩, ⟨_, hsequence, hc⟩,
        .inr ⟨_, rfl, hdata.isHex, ?_⟩⟩
      rwa [hdata.half_length]

/-! ### Entries -/

/-- What a receiver reads in the packet of a telecommand is what the telecommand was made from. -/
theorem reads_of_make {apid sequence : UInt16} {service subservice : UInt8} {data : Bytes}
    {t : Telecommand} (made : Telecommand.make apid service subservice sequence data = .ok t) :
    data.length ≤ 65530 ∧ ∃ p, Packet.decode t.pack.raw = .ok p ∧ p.valid = true ∧
      p.header.kind = .telecommand ∧ p.header.apid.val = apid.toNat % 2 ^ 11 ∧
      p.header.sequence.val = sequence.toNat % 2 ^ 14 ∧ p.service = service ∧
      p.subservice = subservice ∧ p.data = data := by
  have hdecode := t.decode_toBytes_append []
  rw [List.append_nil] at hdecode
  unfold Telecommand.make at made
  split at made
  case isTrue fits =>
    obtain rfl := Except.ok.inj made
    exact ⟨fits, _, hdecode, rfl, rfl, rfl, rfl, rfl, rfl, rfl⟩
  case isFalse => cases made

/-- **The grammar of a telecommand in a script.**  An argument is read if its words, those between
blanks, are three or four: two numbers up to 255 and one up to 65535, each an optional plus sign and
decimal digits, and, if there is a fourth, an even number of hexadecimal digits for at most 65530
octets.  The entry is then the packet of the telecommand that is made of just these values, and a
receiver reads them in it, with the sequence count cut to 14 bits.  Any other argument is refused
for the first of its faults: a number that is missing, a field that is not what it should be, a
field too many, data that do not fit into one packet. -/
theorem ofTag_telecommand (argument : String) (apid : UInt16) :
    let fields := (argument.toList.splitOnP Text.isBlank).filter (!·.isEmpty)
    let result := Entry.ofTag "tc" argument apid
    ((∃ e, result = .ok e) ↔ Accepts fields) ∧
      (∀ e, result = .ok e ↔ ∃ service subservice sequence data t,
        Describes fields service subservice sequence data ∧
          Telecommand.make apid service subservice sequence data = .ok t ∧
          e = .telecommand t.pack ∧
          ∃ p, Packet.decode t.pack.raw = .ok p ∧ p.valid = true ∧
            p.header.kind = .telecommand ∧ p.header.apid.val = apid.toNat % 2 ^ 11 ∧
            p.header.sequence.val = sequence.toNat % 2 ^ 14 ∧ p.service = service ∧
            p.subservice = subservice ∧ p.data = data) ∧
      ∀ cause, result = .error cause ↔ FirstFault fields cause := by
  intro fields result
  -- Blanks around the argument and between its words do not matter.
  have hresult : result = ofFields apid fields := by
    show ofFields apid (Text.words (Text.trim argument.toList)) = _
    rw [Text.words_trim, Text.words_eq]
  rw [hresult]
  refine ⟨?_, fun e => ?_, fun cause => ofFields_eq_error_iff apid⟩
  · rw [accepts_iff]
    constructor
    · rintro ⟨e, hread⟩
      obtain ⟨service, subservice, sequence, data, t, describes, hmake, -⟩ :=
        (ofFields_eq_ok_iff apid).mp hread
      exact ⟨service, subservice, sequence, data, describes, (reads_of_make hmake).1⟩
    · rintro ⟨service, subservice, sequence, data, describes, hsize⟩
      exact ⟨_, (ofFields_eq_ok_iff apid).mpr
        ⟨service, subservice, sequence, data, _, describes, dif_pos hsize, rfl⟩⟩
  · rw [ofFields_eq_ok_iff]
    constructor
    · rintro ⟨service, subservice, sequence, data, t, describes, hmake, he⟩
      exact ⟨service, subservice, sequence, data, t, describes, hmake, he,
        (reads_of_make hmake).2⟩
    · rintro ⟨service, subservice, sequence, data, t, describes, hmake, he, -⟩
      exact ⟨service, subservice, sequence, data, t, describes, hmake, he⟩

/-- The first fault counts: the second number is too great, the data are an odd number of digits,
and there is a field too many. -/
example : Entry.ofTag "tc" "+017 256 1 4affe extra" 115 = .error (.invalid "tc" "256") := by
  decide

end GroundLink.Queue
