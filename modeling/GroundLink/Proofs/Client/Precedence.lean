import GroundLink.Client.Startup

/-!
# The command line goes before the file

Seven options can be set on the command line and in the configuration file (`Shared`).  All that the
merged configuration depends on is what the two say together: the file's word on a shared option
might as well be said by the command line (`CommandLine.configure_joined`).  So what the file says
about an option that the command line sets has no influence
(`CommandLine.joined_eq_of_agreeBut`), and an option may move from the file to the command line
(`CommandLine.joined_taking`).

What can be wrong with a configuration comes in an order (`CommandLine.faults`), and a configuration
is refused for the first of its faults (`CommandLine.configure_failsWith`).

The main statement is `CommandLine.configure_precedence`.
-/

namespace GroundLink.Client

/-! ### Shared options -/

/-- An option of the command line that the file may set as well. -/
inductive Shared where
  | link
  | serialPort
  | board
  | client
  | tmTimeout
  | tcTimeoutFactor
  | resend
  deriving DecidableEq, Repr

def LinkKind.name : LinkKind → String
  | .dummy => "dummy"
  | .serial => "serial"
  | .udp => "udp"

/-- A file uses this name. -/
theorem LinkKind.kindNamed?_name (kind : LinkKind) :
    ConfigFile.kindNamed? kind.name = some kind := by
  cases kind <;> rfl

/-- A name that selects a kind in a file selects it on the command line. -/
theorem LinkKind.ofText_of_kindNamed? {name : String} {kind : LinkKind}
    (h : ConfigFile.kindNamed? name = some kind) : ofText name = .ok kind := by
  unfold ConfigFile.kindNamed? at h
  split at h <;> cases h <;> rfl

theorem LinkKind.ofText_name (kind : LinkKind) : ofText kind.name = .ok kind :=
  ofText_of_kindNamed? (kindNamed?_name kind)

namespace CommandLine

/-- Whether the command line sets an option. -/
def sets (c : CommandLine) : Shared → Bool
  | .link => c.link.isSome
  | .serialPort => c.serialPort.isSome
  | .board => c.board.isSome
  | .client => c.client.isSome
  | .tmTimeout => c.tmTimeout.isSome
  | .tcTimeoutFactor => c.tcTimeoutFactor.isSome
  | .resend => c.resend

/-- The command line that also says what the file says about an option, a kind of link by its
name. -/
def taking (c : CommandLine) (file : ConfigFile) : Shared → CommandLine
  | .link => { c with link := file.link.kind.map LinkKind.name }
  | .serialPort => { c with serialPort := file.link.serialPort }
  | .board => { c with board := file.link.board }
  | .client => { c with client := file.link.client }
  | .tmTimeout => { c with tmTimeout := file.traffic.tmTimeout }
  | .tcTimeoutFactor => { c with tcTimeoutFactor := file.traffic.tcTimeoutFactor }
  | .resend => { c with resend := file.traffic.resend.getD false }

end CommandLine

namespace ConfigFile

/-- The file that says nothing about an option. -/
def without (file : ConfigFile) : Shared → ConfigFile
  | .link => { file with link := { file.link with kind := none } }
  | .serialPort => { file with link := { file.link with serialPort := none } }
  | .board => { file with link := { file.link with board := none } }
  | .client => { file with link := { file.link with client := none } }
  | .tmTimeout => { file with traffic := { file.traffic with tmTimeout := none } }
  | .tcTimeoutFactor => { file with traffic := { file.traffic with tcTimeoutFactor := none } }
  | .resend => { file with traffic := { file.traffic with resend := none } }

/-- Two files say the same but for the options of a set. -/
structure AgreeBut (set : Shared → Bool) (f g : ConfigFile) : Prop where
  kind : set .link = false → f.link.kind = g.link.kind
  serialPort : set .serialPort = false → f.link.serialPort = g.link.serialPort
  baudRate : f.link.baudRate = g.link.baudRate
  board : set .board = false → f.link.board = g.link.board
  client : set .client = false → f.link.client = g.link.client
  apid : f.traffic.apid = g.traffic.apid
  tmTimeout : set .tmTimeout = false → f.traffic.tmTimeout = g.traffic.tmTimeout
  tcTimeoutFactor :
    set .tcTimeoutFactor = false → f.traffic.tcTimeoutFactor = g.traffic.tcTimeoutFactor
  resend : set .resend = false → f.traffic.resend = g.traffic.resend
  logFile : f.traffic.logFile = g.traffic.logFile

/-- What the file says about anything else than shared options. -/
def unshared (file : ConfigFile) : ConfigFile where
  link := { baudRate := file.link.baudRate }
  traffic := { apid := file.traffic.apid, logFile := file.traffic.logFile }

end ConfigFile

namespace CommandLine

variable (c : CommandLine) {f g : ConfigFile}

/-! ### Both together -/

/-- What the command line and the file say together about the shared options, on one command
line. -/
def joined (c : CommandLine) (file : ConfigFile) : CommandLine :=
  { c with
    link := c.link.or (file.link.kind.map LinkKind.name)
    serialPort := c.serialPort.or file.link.serialPort
    board := c.board.or file.link.board
    client := c.client.or file.link.client
    tmTimeout := c.tmTimeout.or file.traffic.tmTimeout
    tcTimeoutFactor := c.tcTimeoutFactor.or file.traffic.tcTimeoutFactor
    resend := c.resend || file.traffic.resend.getD false }

theorem linkConfig_joined (file : ConfigFile) :
    (c.joined file).linkConfig file.unshared.link = c.linkConfig file.link := by
  unfold linkConfig joined ConfigFile.unshared
  cases c.link with
  | some text => simp only [Option.or_none, Option.some_or]
  | none =>
    cases file.link.kind with
    | none => simp only [Option.or_none, Option.map_none]
    | some kind =>
      -- The name on the command line is read back as the kind.
      simp only [Option.or_none, Option.none_or, Option.map_some, LinkKind.ofText_name]
      rfl

theorem settingsFor_joined (file : ConfigFile) (kind : LinkKind) :
    (c.joined file).settingsFor kind file.unshared.traffic = c.settingsFor kind file.traffic := by
  unfold settingsFor joined ConfigFile.unshared
  simp only [Option.or_none, Option.getD_none, Bool.or_false]

/-- **The file might as well say nothing about the shared options**, if the command line says it
instead. -/
theorem configure_joined (file : ConfigFile) :
    (c.joined file).configure file.unshared = c.configure file := by
  unfold configure
  simp only [linkConfig_joined, settingsFor_joined]
  rfl

/-! ### What is overridden -/

/-- What the command line leaves open comes from the file, and the rest does not. -/
theorem or_congr {α : Type} {own a b : Option α} (h : own.isSome = false → a = b) :
    own.or a = own.or b := by
  cases own with
  | none => exact h rfl
  | some value => rfl

theorem joined_eq_of_agreeBut (agree : ConfigFile.AgreeBut c.sets f g) :
    c.joined f = c.joined g := by
  have hresend : (c.resend || f.traffic.resend.getD false) =
      (c.resend || g.traffic.resend.getD false) := by
    cases hc : c.resend with
    | true => rfl
    | false => rw [agree.resend hc]
  have hlink : c.link.or (f.link.kind.map LinkKind.name) =
      c.link.or (g.link.kind.map LinkKind.name) :=
    or_congr fun h => congrArg (Option.map LinkKind.name) (agree.kind h)
  unfold joined
  rw [hlink, or_congr agree.serialPort, or_congr agree.board, or_congr agree.client,
    or_congr agree.tmTimeout, or_congr agree.tcTimeoutFactor, hresend]

theorem unshared_eq_of_agreeBut {set : Shared → Bool} (agree : ConfigFile.AgreeBut set f g) :
    f.unshared = g.unshared := by
  unfold ConfigFile.unshared
  rw [agree.baudRate, agree.apid, agree.logFile]

/-! ### What moves -/

/-- Moving an option changes nothing of what is said together. -/
theorem joined_taking {option : Shared} (file : ConfigFile) (unset : c.sets option = false) :
    (c.taking file option).joined (file.without option) = c.joined file := by
  cases option with
  | link | serialPort | board | client | tmTimeout | tcTimeoutFactor =>
    have hnone := Option.isSome_eq_false_iff.mp unset
    rw [Option.isNone_iff_eq_none] at hnone
    simp [joined, taking, ConfigFile.without, hnone]
  | resend =>
    have hfalse : c.resend = false := unset
    simp [joined, taking, ConfigFile.without, hfalse]

theorem unshared_without (file : ConfigFile) (option : Shared) :
    (file.without option).unshared = file.unshared := by
  cases option <;> rfl

end CommandLine

/-! ### The first fault -/

/-- A result that is refused for the first of its faults, if it has any. -/
def FailsWith {ε α : Type} (result : Except ε α) (faults : List ε) : Prop :=
  match result with
  | .ok _ => faults = []
  | .error cause => faults.head? = some cause

/-- A fault that is there if something is wrong. -/
def faultIf (wrong : Prop) [Decidable wrong] (cause : ConfigError) : List ConfigError :=
  if wrong then [cause] else []

theorem faultIf_pos {wrong : Prop} [Decidable wrong] {cause : ConfigError} (h : wrong) :
    faultIf wrong cause = [cause] :=
  if_pos h

theorem faultIf_neg {wrong : Prop} [Decidable wrong] {cause : ConfigError} (h : ¬ wrong) :
    faultIf wrong cause = [] :=
  if_neg h

section FailsWith

variable {ε α β : Type} {result : Except ε α} {next : α → Except ε β} {faults others : List ε}

/-- Where the first step is refused, its faults go before all others. -/
theorem FailsWith.bind (first : FailsWith result faults)
    (second : ∀ a, result = .ok a → FailsWith (next a) others) :
    FailsWith (result >>= next) (faults ++ others) := by
  cases result with
  | ok a =>
    have hnone : faults = [] := first
    rw [hnone, List.nil_append]
    exact second a rfl
  | error cause =>
    have hfirst : faults.head? = some cause := first
    show (faults ++ others).head? = some cause
    rw [List.head?_append, hfirst, Option.some_or]

/-- A step that cannot be refused adds no fault. -/
theorem FailsWith.map (h : FailsWith result faults) (f : α → β) :
    FailsWith (result >>= fun a => pure (f a)) faults := by
  cases result with
  | ok a => exact h
  | error cause => exact h

/-- The first step of a successful sequence was successful. -/
theorem exists_of_bind_eq_ok {b : β} (h : result >>= next = .ok b) :
    ∃ a, result = .ok a ∧ next a = .ok b := by
  cases result with
  | ok a => exact ⟨a, rfl, h⟩
  | error cause => cases h

theorem FailsWith.error_iff (h : FailsWith result faults) (cause : ε) :
    result = .error cause ↔ faults.head? = some cause := by
  cases result with
  | ok a =>
    have hnone : faults = [] := h
    simp [hnone]
  | error other =>
    have hfirst : faults.head? = some other := h
    rw [hfirst, Except.error.injEq, Option.some_inj]

/-- A check that can fail for one cause. -/
theorem failsWith_faultIf {wrong : Prop} [Decidable wrong] {cause : ConfigError} {a : α} :
    FailsWith (if wrong then .error cause else .ok a) (faultIf wrong cause) := by
  by_cases h : wrong
  · rw [if_pos h, faultIf_pos h]
    rfl
  · rw [if_neg h, faultIf_neg h]
    rfl

end FailsWith

namespace CommandLine

variable (c : CommandLine) (file : ConfigFile)

/-- The kind of link that is asked for, if there is one of that name. -/
def kind? : Option LinkKind :=
  match c.link with
  | some text => (LinkKind.ofText text).toOption
  | none => some (file.link.kind.getD .udp)

/-- The collection window that is asked for, or the one that suits the kind of link. -/
def window? : Option Span :=
  match c.tmTimeout.or file.traffic.tmTimeout with
  | some seconds => Span.ofSeconds? seconds
  | none => (c.kind? file).map fun kind => Span.ofSecs (if kind = .serial then 6 else 5)

/-- The factor that is asked for, or else the usual one. -/
def factor : Float :=
  (c.tcTimeoutFactor.or file.traffic.tcTimeoutFactor).getD 3.5

def nameFaults (asked : Option String) : List ConfigError :=
  asked.toList.flatMap fun text =>
    faultIf ((LinkKind.ofText text).toOption = none) (.invalidLink text)

def portFaults (kind : Option LinkKind) (port : Option String) : List ConfigError :=
  faultIf (kind = some .serial ∧ port = none) .missingSerialPort

def windowFaults (asked : Option Float) : List ConfigError :=
  asked.toList.flatMap fun seconds =>
    faultIf (Span.ofSeconds? seconds = none) (.invalidTmTimeout seconds)

/-- The fault of a factor that is not positive, or with which the product is no span. -/
def factorFaults (window : Option Span) (factor : Float) : List ConfigError :=
  faultIf (¬ (factor.isFinite = true ∧ 0.0 < factor) ∨
      ∃ span ∈ window, Span.ofSeconds? (span.seconds * factor) = none)
    (.invalidTcTimeoutFactor factor)

/-- All that is wrong with a configuration, in order. -/
def faults : List ConfigError :=
  faultIf (Mode.ofCode? c.mode.toNat = none) (.invalidMode c.mode) ++
  (faultIf ((ServiceSelection.ofText c.service).toOption = none) (.invalidService c.service) ++
  ((nameFaults c.link ++ portFaults (c.kind? file) (c.serialPort.or file.link.serialPort)) ++
  (windowFaults (c.tmTimeout.or file.traffic.tmTimeout) ++
    factorFaults (c.window? file) (c.factor file))))

variable {c file}

theorem failsWith_ofText (text : String) : FailsWith (LinkKind.ofText text)
    (faultIf ((LinkKind.ofText text).toOption = none) (.invalidLink text)) := by
  unfold LinkKind.ofText
  split
  · rfl
  · rfl

theorem failsWith_service (text : String) : FailsWith (ServiceSelection.ofText text)
    (faultIf ((ServiceSelection.ofText text).toOption = none) (.invalidService text)) := by
  unfold ServiceSelection.ofText
  split
  · rfl
  · split
    · rfl
    · rfl

theorem toOption_eq_some_of_eq_ok {ε α : Type} {result : Except ε α} {a : α}
    (h : result = .ok a) : result.toOption = some a := by
  rw [h]
  rfl

/-- What passed a check is what was checked. -/
theorem eq_of_ite_eq_ok {ε α : Type} {wrong : Prop} [Decidable wrong] {cause : ε} {a b : α}
    (h : (if wrong then .error cause else .ok a : Except ε α) = .ok b) : a = b := by
  split at h
  · cases h
  · exact Except.ok.inj h

/-- The kind of the configured link is the one that is asked for. -/
theorem kind?_of_linkConfig {link : LinkConfig} (h : c.linkConfig file.link = .ok link) :
    c.kind? file = some link.kind := by
  unfold linkConfig at h
  unfold kind?
  cases hlink : c.link with
  | some text =>
    rw [hlink] at h
    obtain ⟨kind, hkind, hrest⟩ := exists_of_bind_eq_ok h
    rw [← eq_of_ite_eq_ok hrest]
    exact toOption_eq_some_of_eq_ok hkind
  | none =>
    rw [hlink] at h
    rw [← eq_of_ite_eq_ok h]
    rfl

/-- **The link** is refused for the first of its faults. -/
theorem failsWith_linkConfig : FailsWith (c.linkConfig file.link)
    (nameFaults c.link ++ portFaults (c.kind? file) (c.serialPort.or file.link.serialPort)) := by
  unfold linkConfig nameFaults portFaults kind?
  cases c.link with
  | some text =>
    rw [Option.toList_some, List.flatMap_singleton]
    refine FailsWith.bind (failsWith_ofText text) fun kind hkind => ?_
    simp only [toOption_eq_some_of_eq_ok hkind, Option.some_inj]
    exact failsWith_faultIf
  | none =>
    simp only [Option.some_inj]
    exact failsWith_faultIf

/-- A window is refused if it is no span. -/
theorem failsWith_tmTimeoutFor (kind : LinkKind) (default : Span) (asked : Option Float) :
    FailsWith (tmTimeoutFor kind default asked) (windowFaults asked) := by
  unfold windowFaults
  cases asked with
  | none => rfl
  | some seconds =>
    rw [Option.toList_some, List.flatMap_singleton]
    simp only [tmTimeoutFor]
    cases Span.ofSeconds? seconds with
    | some span => rfl
    | none => rfl

/-- The window of the settings is the one that is asked for. -/
theorem window?_of_tmTimeoutFor {kind : LinkKind} {window : Span}
    (asked : c.kind? file = some kind)
    (h : tmTimeoutFor kind (Span.ofSecs 5) (c.tmTimeout.or file.traffic.tmTimeout) = .ok window) :
    c.window? file = some window := by
  unfold window?
  cases hasked : c.tmTimeout.or file.traffic.tmTimeout with
  | some seconds =>
    simp only [hasked, tmTimeoutFor] at h
    cases hspan : Span.ofSeconds? seconds with
    | some span => simpa [hspan] using h
    | none => simp [hspan] at h
  | none =>
    rw [hasked] at h
    simp only [asked, Option.map_some, ← Except.ok.inj h]
    split
    · rfl
    · rfl

/-- A factor is refused if it is not positive, or if the product is no span. -/
theorem failsWith_checkFactor (window : Span) (factor : Float) :
    FailsWith (checkFactor window factor) (factorFaults (some window) factor) := by
  have hchecked : factor.isFinite && 0.0 < factor &&
        (Span.ofSeconds? (window.seconds * factor)).isSome ↔
      ¬ (¬ (factor.isFinite = true ∧ 0.0 < factor) ∨
        ∃ span ∈ some window, Span.ofSeconds? (span.seconds * factor) = none) := by
    simp [Option.isSome_iff_ne_none]
  unfold checkFactor
  simp only [hchecked, ite_not]
  exact failsWith_faultIf

/-- **The settings** are refused for the first fault of the timeouts. -/
theorem failsWith_settingsFor {kind : LinkKind} (asked : c.kind? file = some kind) :
    FailsWith (c.settingsFor kind file.traffic)
      (windowFaults (c.tmTimeout.or file.traffic.tmTimeout) ++
        factorFaults (c.window? file) (c.factor file)) := by
  unfold settingsFor
  refine FailsWith.bind (failsWith_tmTimeoutFor _ _ _) fun window hwindow => ?_
  rw [window?_of_tmTimeoutFor asked hwindow]
  exact (failsWith_checkFactor window (c.factor file)).map _

/-- **A configuration is refused for the first of its faults.** -/
theorem configure_failsWith : FailsWith (c.configure file) (c.faults file) := by
  unfold configure faults
  cases Mode.ofCode? c.mode.toNat with
  | none => rfl
  | some mode =>
    rw [faultIf_neg (Option.some_ne_none mode), List.nil_append]
    -- The window by default depends on the link, so the settings are judged with its kind at hand.
    refine FailsWith.bind (failsWith_service c.service) fun service _ => ?_
    refine FailsWith.bind failsWith_linkConfig fun link hlink => ?_
    exact (failsWith_settingsFor (kind?_of_linkConfig hlink)).map _

/-! ### Precedence -/

/-- The faults, too, are those of what is said together. -/
theorem faults_joined : (c.joined file).faults file.unshared = c.faults file := by
  have hkind : (c.joined file).kind? file.unshared = c.kind? file := by
    unfold kind? joined ConfigFile.unshared
    cases c.link with
    | some text => rfl
    | none =>
      cases file.link.kind with
      | none => rfl
      | some kind => exact toOption_eq_some_of_eq_ok kind.ofText_name
  have hname : nameFaults (c.joined file).link = nameFaults c.link := by
    unfold joined
    cases c.link with
    | some text => rfl
    | none =>
      cases file.link.kind with
      | none => rfl
      | some kind =>
        -- The name of a kind is in order.
        simp [nameFaults, faultIf, toOption_eq_some_of_eq_ok kind.ofText_name]
  have hwindow : (c.joined file).window? file.unshared = c.window? file := by
    unfold window?
    rw [hkind]
    simp only [joined, ConfigFile.unshared, Option.or_none]
  have hfactor : (c.joined file).factor file.unshared = c.factor file := by
    simp only [factor, joined, ConfigFile.unshared, Option.or_none]
  unfold faults
  rw [hname, hkind, hwindow, hfactor]
  simp only [joined, ConfigFile.unshared, Option.or_none]
  rfl

/-- A kind of link may be selected by any of its names. -/
theorem configure_naming {text : String} {kind : LinkKind} (unset : c.link = none)
    (supplied : file.link.kind = some kind) (named : LinkKind.ofText text = .ok kind) :
    { c with link := some text }.configure (file.without .link) = c.configure file := by
  unfold configure linkConfig ConfigFile.without
  simp only [unset, supplied, named]
  rfl

/-- Leaving out an option changes nothing else. -/
theorem agreeBut_without {set : Shared → Bool} {option : Shared} (member : set option = true) :
    ConfigFile.AgreeBut set file (file.without option) := by
  constructor <;> cases option <;> simp_all [ConfigFile.without]

/-- **The command line goes before the file.**  Files that say the same but for options that the
command line sets lead to the same configuration or the same refusal, so a value that is overridden
does no harm, whatever it is.  An option that only the file sets may move to the command line, a
kind of link by any of its names.  Neither changes what is wrong with the configuration, and it is
refused for the first thing that is. -/
theorem configure_precedence (c : CommandLine) (file : ConfigFile) :
    (∀ other, ConfigFile.AgreeBut c.sets file other →
      c.configure file = c.configure other ∧ c.faults file = c.faults other) ∧
    (∀ option, c.sets option = true → c.configure file = c.configure (file.without option)) ∧
    (∀ option, c.sets option = false →
      (c.taking file option).configure (file.without option) = c.configure file ∧
      (c.taking file option).faults (file.without option) = c.faults file) ∧
    (∀ text kind, c.link = none → file.link.kind = some kind → LinkKind.ofText text = .ok kind →
      { c with link := some text }.configure (file.without .link) = c.configure file) ∧
    ∀ cause, c.configure file = .error cause ↔ (c.faults file).head? = some cause := by
  have hfile : ∀ other, ConfigFile.AgreeBut c.sets file other →
      c.configure file = c.configure other ∧ c.faults file = c.faults other := by
    intro other agree
    have hjoined := joined_eq_of_agreeBut c agree
    have hrest := unshared_eq_of_agreeBut agree
    constructor
    · rw [← configure_joined, hjoined, hrest, configure_joined]
    · rw [← faults_joined, hjoined, hrest, faults_joined]
  refine ⟨hfile, fun option set => (hfile _ (agreeBut_without set)).1, fun option unset => ?_,
    fun text kind => configure_naming, fun cause => configure_failsWith.error_iff cause⟩
  have hjoined := joined_taking c file unset
  have hrest := unshared_without file option
  constructor
  · rw [← configure_joined, hjoined, hrest, configure_joined]
  · rw [← faults_joined, hjoined, hrest, faults_joined]

/-- A negative window in the file does no harm where the command line sets the window.  Neither does
it matter who asks for the serial link and for the factor, which is refused only after the port was
found to be missing. -/
theorem configure_precedence_serial :
    ∃ (c : CommandLine) (file : ConfigFile), file.traffic.tmTimeout = some (-1.0) ∧
      c.configure file = c.configure (file.without .tmTimeout) ∧
      c.faults file = c.faults (file.without .tmTimeout) ∧
      { c with link := some "1" }.configure (file.without .link) = c.configure file ∧
      (c.taking file .tcTimeoutFactor).configure (file.without .tcTimeoutFactor) =
        c.configure file ∧
      c.faults file = [.missingSerialPort, .invalidTcTimeoutFactor 0.0] ∧
      c.configure file = .error .missingSerialPort := by
  let c : CommandLine := { tmTimeout := some 2.0 }
  let file : ConfigFile :=
    { link := { kind := some .serial }
      traffic := { tmTimeout := some (-1.0), tcTimeoutFactor := some 0.0 } }
  obtain ⟨hfile, hset, hunset, hnamed, hcause⟩ := configure_precedence c file
  -- Only the window differs, and the command line sets it.
  have hagree : ConfigFile.AgreeBut c.sets file (file.without .tmTimeout) := by
    constructor <;> simp [file, c, sets, ConfigFile.without]
  have hmode : Mode.ofCode? c.mode.toNat ≠ none := by decide
  have hservice : (ServiceSelection.ofText c.service).toOption ≠ none := by decide +kernel
  have hport : portFaults (c.kind? file) none = [.missingSerialPort] := faultIf_pos ⟨rfl, rfl⟩
  have hwindow : windowFaults (some 2.0) = [] := by
    have hspan : Span.ofSeconds? 2.0 ≠ none := by decide +kernel
    rw [windowFaults, Option.toList_some, List.flatMap_singleton, faultIf_neg hspan]
  have hfactor : factorFaults (c.window? file) 0.0 = [.invalidTcTimeoutFactor 0.0] :=
    faultIf_pos (.inl (by decide +kernel))
  have hfaults : c.faults file = [.missingSerialPort, .invalidTcTimeoutFactor 0.0] := by
    rw [faults, faultIf_neg hmode, faultIf_neg hservice]
    show [] ++ ([] ++ (([] ++ portFaults (c.kind? file) none) ++
      (windowFaults (some 2.0) ++ factorFaults (c.window? file) 0.0))) = _
    rw [hport, hwindow, hfactor]
    rfl
  have hnumber : LinkKind.ofText "1" = .ok .serial := by rfl
  refine ⟨c, file, rfl, hset .tmTimeout rfl, (hfile _ hagree).2, hnamed "1" .serial rfl rfl hnumber,
    (hunset .tcTimeoutFactor rfl).1, hfaults, (hcause .missingSerialPort).mpr ?_⟩
  rw [hfaults]
  rfl

end CommandLine

end GroundLink.Client
