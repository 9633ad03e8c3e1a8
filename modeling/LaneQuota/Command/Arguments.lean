import LaneQuota.Decimal.Reader

namespace LaneQuota

structure OptionForm where
  name : String
  takesValue : Bool
  repeats : Bool
  accepts : String → Bool

namespace OptionForm

def flag (name : String) : OptionForm := ⟨name, false, false, fun _ => true⟩

def text (name : String) : OptionForm := ⟨name, true, false, fun _ => true⟩

def texts (name : String) : OptionForm := ⟨name, true, true, fun _ => true⟩

end OptionForm

structure CommandForm where
  options : List OptionForm
  operand : Option (String → Bool)

structure GivenArguments where
  options : List (String × String)
  operands : List String

inductive ArgumentStop where
  | help
  | misuse
deriving DecidableEq, Repr

namespace GivenArguments

def none : GivenArguments := ⟨[], []⟩

def has (g : GivenArguments) (name : String) : Bool := (g.options.lookup name).isSome

def value? (g : GivenArguments) (name : String) : Option String := g.options.lookup name

def values (g : GivenArguments) (name : String) : List String :=
  (g.options.filter (fun o => o.1 = name)).map Prod.snd

end GivenArguments

def longOption? (arg : String) : Option (String × Option String) :=
  match arg.toList with
  | '-' :: '-' :: rest =>
    let name := String.ofList (rest.takeWhile (· != '='))
    match rest.dropWhile (· != '=') with
    | [] => some (name, none)
    | _ :: value => some (name, some (String.ofList value))
  | _ => none

def isDashed (arg : String) : Bool :=
  match arg.toList with
  | '-' :: _ :: _ => true
  | _ => false

def asksForHelp (arg : String) : Bool :=
  match arg.toList with
  | '-' :: 'h' :: _ => true
  | _ => arg = "--help"

namespace CommandForm

def addOperand (form : CommandForm) (g : GivenArguments) (arg : String) :
    Except ArgumentStop GivenArguments :=
  match form.operand with
  | some accepts =>
    if g.operands.isEmpty && accepts arg then .ok ⟨g.options, [arg]⟩ else .error .misuse
  | none => .error .misuse

def addOption (g : GivenArguments) (o : OptionForm) (value : String) :
    Except ArgumentStop GivenArguments :=
  if (g.has o.name && !o.repeats) || !o.accepts value then .error .misuse
  else .ok ⟨g.options ++ [(o.name, value)], g.operands⟩

def operands (form : CommandForm) (g : GivenArguments) :
    List String → Except ArgumentStop GivenArguments
  | [] => .ok g
  | arg :: rest => do form.operands (← form.addOperand g arg) rest

def read (form : CommandForm) (g : GivenArguments) :
    List String → Except ArgumentStop GivenArguments
  | [] => .ok g
  | arg :: rest =>
    if arg = "--" then form.operands g rest
    else if asksForHelp arg then .error .help
    else
      match longOption? arg with
      | none =>
        if isDashed arg then .error .misuse
        else do form.read (← form.addOperand g arg) rest
      | some (name, attached) =>
        match form.options.find? (fun o => o.name = name) with
        | none => .error .misuse
        | some o =>
          match o.takesValue, attached with
          | false, none => do form.read (← addOption g o "") rest
          | false, some _ => .error .misuse
          | true, some value => do form.read (← addOption g o value) rest
          | true, none =>
            match rest with
            | [] => .error .misuse
            | value :: rest =>
              if isDashed value then .error .misuse
              else do form.read (← addOption g o value) rest

end CommandForm

structure RouteArguments where
  signals : Option String
  tools : List String
  workItem : Option String
  tenant : Option String
  estimateTokens : UInt64
deriving DecidableEq

inductive Invocation where
  | status (tenant : Option String) (json : Bool)
  | unlimited (enabled : Bool) (tenant : Option String)
  | route (arguments : RouteArguments)
  | sync (watch : Bool)
  | validateSettings
  | showSettings
  | version
deriving DecidableEq

namespace Invocation

def readsInput : Invocation → Bool
  | .route a => a.signals.isNone
  | _ => false

def tokenCount? (s : String) : Option UInt64 :=
  (readNat? s.toList).bind (fun n =>
    if n ≤ Word.maxUnsigned64 then some (UInt64.ofNat n) else none)

def statusForm : CommandForm := ⟨[.text "tenant", .flag "json"], none⟩

def unlimitedForm : CommandForm := ⟨[.text "tenant"], some (fun s => s = "on" || s = "off")⟩

def routeForm : CommandForm :=
  ⟨[.text "signals", .texts "tool", .text "work-item", .text "tenant",
    ⟨"estimate-tokens", true, false, fun s => (tokenCount? s).isSome⟩], none⟩

def syncForm : CommandForm := ⟨[.flag "watch"], none⟩

def bareForm : CommandForm := ⟨[], none⟩

def commandNames : List String := ["status", "unlimited", "route", "sync", "config", "help"]

def settingsCommandNames : List String := ["validate", "show", "help"]

def hasHelpOn : List String → Bool
  | [] => true
  | [name] => commandNames.contains name
  | [name, inner] => name = "config" && settingsCommandNames.contains inner
  | _ => false

def readSettingsCommand : List String → Except ArgumentStop Invocation
  | [] => .error .misuse
  | arg :: rest =>
    if arg = "validate" then (bareForm.read .none rest).map (fun _ => .validateSettings)
    else if arg = "show" then (bareForm.read .none rest).map (fun _ => .showSettings)
    else if arg = "help" then .error (if hasHelpOn ("config" :: rest) then .help else .misuse)
    else .error (if asksForHelp arg then .help else .misuse)

def asksForVersion (arg : String) : Bool :=
  match arg.toList with
  | '-' :: 'V' :: _ => true
  | _ => arg = "--version"

def read : List String → Except ArgumentStop Invocation
  | [] => .error .misuse
  | arg :: rest =>
    if asksForVersion arg then .ok .version
    else if asksForHelp arg then .error .help
    else if arg = "help" then .error (if hasHelpOn rest then .help else .misuse)
    else if arg = "status" then do
      let g ← statusForm.read .none rest
      return .status (g.value? "tenant") (g.has "json")
    else if arg = "unlimited" then do
      let g ← unlimitedForm.read .none rest
      match g.operands with
      | [state] => return .unlimited (state = "on") (g.value? "tenant")
      | _ => throw .misuse
    else if arg = "route" then do
      let g ← routeForm.read .none rest
      return .route ⟨g.value? "signals", g.values "tool", g.value? "work-item",
        g.value? "tenant", ((g.value? "estimate-tokens").bind tokenCount?).getD 0⟩
    else if arg = "sync" then do
      let g ← syncForm.read .none rest
      return .sync (g.has "watch")
    else if arg = "config" then readSettingsCommand rest
    else .error .misuse

end Invocation

end LaneQuota
