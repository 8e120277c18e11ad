import ApiPage.Datum.Basic
import ApiPage.Package.Elide
import ApiPage.Page.Anchor
import ApiPage.Page.Resolver

/-!
# Options of a page

How a page is rendered, and the limits that hold for new pages. Both are checked when they are set.

## Main definitions

* `checkThreshold`: a limit, if it is a whole number that is not negative.
* `Settings`: the limits that hold for new pages.
* `Options.ofFields`: the options of a page from named values.
-/

namespace ApiPage

/-- Why a value is refused. -/
inductive ValidationError
  | notWhole (param typeName : Text)
  | negative (param : Text) (value : Int)
  | notCallable (value : Datum)
  | badKinds (reason : Text)

namespace ValidationError

/-- The wording of an error. -/
def message : ValidationError → Text
  | notWhole param typeName => param ++ Text.of " must be int, got " ++ typeName
  | negative param value => param ++ Text.of " must be >= 0, got " ++ Text.ofInt value
  | notCallable _ => Text.of "package_url must be callable"
  | badKinds reason => Text.of "anchor_kinds must hold Kind values: " ++ reason

/-- What an error is about. -/
def details : ValidationError → List (Text × Datum)
  | notWhole param typeName => [(Text.of "param", .text param), (Text.of "type", .text typeName)]
  | negative param value => [(Text.of "param", .text param), (Text.of "value", .int value)]
  | notCallable value =>
    [(Text.of "param", .str "package_url"), (Text.of "value", .text value.literal)]
  | badKinds _ => [(Text.of "param", .str "anchor_kinds")]

end ValidationError

/-! ### Limits -/

/-- **A limit**, if it is a whole number that is not negative. -/
def checkThreshold (param : Text) : Datum → Except ValidationError Int
  | .int i => if i < 0 then .error (.negative param i) else .ok i
  | d => .error (.notWhole param d.typeName)

/-- The name of the limit on strings. -/
def stringSizeName : Text := Text.of "max_string_size"

/-- The name of the limit on displays. -/
def elementsName : Text := Text.of "max_elements"

/-- Why a setting is not changed. -/
inductive SettingError
  | invalid (e : ValidationError)
  | unknown (name : Text)

/-- **Settings**: the limits that hold for new pages. -/
abbrev Settings := Limits

namespace Settings

/-- Sets a limit by its name. -/
def set (s : Settings) (name : Text) (value : Datum) : Except SettingError Settings :=
  if name = stringSizeName then
    match checkThreshold name value with
    | .ok i => .ok { s with stringSize := i }
    | .error e => .error (.invalid e)
  else if name = elementsName then
    match checkThreshold name value with
    | .ok i => .ok { s with elements := i }
    | .error e => .error (.invalid e)
  else .error (.unknown name)

/-- The source form of settings. -/
def literal (s : Settings) : Text :=
  Text.of "RenderConfig(max_string_size=" ++ Text.ofInt s.stringSize ++ Text.of ", max_elements=" ++
    Text.ofInt s.elements ++ [')']

end Settings

/-! ### Options -/

/-- **Options** of a page. `pageUrl` gives the URL of the page of a path. -/
structure Options where
  pageUrl : Text → Text
  hotlinks : Bool
  permalinks : Bool
  contents : Bool
  limits : Limits
  kinds : List Kind
  wrapsMethods : Bool

namespace Options

/-- The kinds of anchors that are marked in the text unless others are asked for. -/
def defaultKinds : List Kind := [.constant, .variable, .field, .method]

/-- The options that hold unless they are set. -/
def initial (s : Settings) : Options :=
  { pageUrl := defaultPageUrl, hotlinks := true, permalinks := true, contents := false, limits := s
    kinds := defaultKinds, wrapsMethods := false }

/-- **An anchor of a kind is marked** in the text of a declaration. -/
def wraps (o : Options) (kind : Kind) (hasReceiver : Bool) : Bool :=
  if hasReceiver && !o.wrapsMethods then false else o.kinds.contains kind

/-- What a value yields one by one. -/
def itemsOf : Datum → Except Text (List Datum)
  | .list xs => .ok xs
  | .text t => .ok (t.map fun c => .text [c])
  | .record fs => .ok (fs.map fun (k, _) => .text k)
  | d => .error (['\''] ++ d.typeName ++ Text.of "' object is not iterable")

/-- The kind that a value names. -/
def kindOf (d : Datum) : Except Text Kind :=
  let known := match d with
    | .text t => Kind.ofText? t
    | _ => none
  match known with
  | some k => .ok k
  | none => .error (d.literal ++ Text.of " is not a valid Kind")

/-- The kinds that some values name. -/
def kindsOf : List Datum → Except Text (List Kind)
  | [] => .ok []
  | d :: ds => do
    let k ← kindOf d
    return k :: (← kindsOf ds)

/-- The rule that gives URLs: anything that can be called. -/
def pageUrlOf : Option Datum → Except ValidationError (Text → Text)
  | none => .ok defaultPageUrl
  | some (.callable _ _ call) => .ok call
  | some d => .error (.notCallable d)

/-- **Options from named values**. What is not named is as in `initial s`. -/
def ofFields (s : Settings) (fields : List (Text × Datum)) : Except ValidationError Options := do
  let get (name : String) : Option Datum := fields.lookup (Text.of name)
  let flag (name : String) (default : Bool) : Bool := (get name).elim default Datum.truthy
  let pageUrl ← pageUrlOf (get "package_url")
  let stringSize ← checkThreshold stringSizeName ((get "max_string_size").getD (.int s.stringSize))
  let elements ← checkThreshold elementsName ((get "max_elements").getD (.int s.elements))
  let kinds ← match get "anchor_kinds" with
    | none => pure defaultKinds
    | some d =>
      match itemsOf d >>= kindsOf with
      | .ok ks => pure ks
      | .error reason => throw (.badKinds reason)
  return {
    pageUrl, kinds, limits := ⟨stringSize, elements⟩
    hotlinks := flag "enable_hotlinking" true
    permalinks := !flag "disable_permalinks" false
    contents := flag "enable_command_toc" false
    wrapsMethods := flag "wrap_receiver_methods" false }

end Options
end ApiPage
