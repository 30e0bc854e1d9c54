import Storefront.Decimal.Binary64
import Storefront.Settings
import Storefront.Yaml.Document

/-!
# Settings as a document

`Settings.read` takes the contents of a file of settings. What the file leaves out has its default,
names that are not known are passed over, and a value of the wrong kind is a fault.

* A text may be written as a scalar of any kind.
* A truth value is a plain scalar, a list or a table may be left empty, and only the taxes may be
  null.
* A decimal is a number or a text. A number with a point or an exponent is held in double
  precision on the way.
-/

namespace Storefront

/-- Why there are no settings. -/
inductive SettingsError where
  /-- The file cannot be read. -/
  | unreadable
  /-- The contents are not a document of settings. -/
  | malformed
deriving DecidableEq, Repr

namespace Yaml

/-! ## Scalars -/

namespace Scalar

private def isNullText (text : String) : Bool := ["~", "null", "Null", "NULL"].contains text

/-- The truth value that a text stands for. -/
private def flagOf? (text : String) : Option Bool :=
  if ["true", "True", "TRUE"].contains text then some true
  else if ["false", "False", "FALSE"].contains text then some false
  else none

private def flag? (s : Scalar) : Option Bool :=
  if s.style = .plain || (s.style = .literal && s.tag = some (.core "bool")) then flagOf? s.text
  else none

private def wholeIn? (base : Nat) (digits : List Char) : Option Nat :=
  if digits.isEmpty then none
  else digits.foldlM (fun n c => do
    let d ← Uuid.hexDigit? c
    if d < base then some (n * base + d) else none) 0

/-- Whether digits alone are no number because a zero stands in front. -/
private def hasZeroInFront (digits : List Char) : Bool :=
  digits.head? = some '0' && 1 < digits.length && digits.all (Decimal.digit? · |>.isSome)

private def magnitude? : List Char → Option Nat
  | '0' :: 'x' :: digits => wholeIn? 16 digits
  | '0' :: 'o' :: digits => wholeIn? 8 digits
  | '0' :: 'b' :: digits => wholeIn? 2 digits
  | digits => if hasZeroInFront digits then none else wholeIn? 10 digits

/-- The whole number that a text stands for. -/
private def whole? (text : String) : Option Int :=
  let (negative, digits) := Decimal.splitSign text.toList
  (magnitude? digits).map fun n => if negative then -(n : Int) else n

/-- A whole number as a decimal, if a word of 64 bits can hold it. -/
private def ofWhole? (n : Int) : Option Decimal :=
  if -9223372036854775808 ≤ n ∧ n < 18446744073709551616 then Decimal.ofText? (toString n)
  else none

/-- The shortest text of the number in double precision that a text stands for. -/
private def float? (text : String) : Option String :=
  let (negative, digits) := Decimal.splitSign text.toList
  (Binary64.parse? digits).map fun x => (if negative then "-" else "") ++ x.toText

private def decimalText? (text : String) : Option Decimal :=
  (Decimal.ofText? text).or (Decimal.ofScientific? text)

/-- The decimal of a plain scalar without a tag. -/
private def plainDecimal? (text : String) : Option Decimal :=
  if text.isEmpty || isNullText text || (flagOf? text).isSome then none
  else match whole? text with
    | some n => ofWhole? n
    | none => match float? text with
      | some shortest =>
        if hasZeroInFront (Decimal.splitSign text.toList).2 then decimalText? text
        else Decimal.ofText? shortest
      | none => decimalText? text

private def decimal? (s : Scalar) : Option Decimal :=
  match s.tag with
  | none => if s.style = .plain then plainDecimal? s.text else decimalText? s.text
  | some tag =>
    if tag = .core "int" then whole? s.text >>= ofWhole?
    else if tag = .core "float" then float? s.text >>= (Decimal.ofText? ·)
    else if tag.localName?.isSome || tag = .core "bool" || tag = .core "null" then none
    else if tag.isLocal && s.style = .plain then plainDecimal? s.text
    else decimalText? s.text

/-- The name of a choice, which a tag may give instead of the text. -/
private def choice? (s : Scalar) : Option String :=
  match s.tag.bind (·.localName?) with
  | none => some s.text
  | some name => if s.isBlank || (s.style = .plain && isNullText s.text) then some name else none

/-- Whether a scalar stands for the absence of a value. A text that is marked as null and is not
stands for nothing at all. -/
private def isAbsent? (s : Scalar) : Option Bool :=
  if s.style ≠ .plain then some false
  else match s.tag with
    | none => some (s.text.isEmpty || isNullText s.text)
    | some tag =>
      if tag ≠ .core "null" then some false else if isNullText s.text then some true else none

end Scalar

/-! ## Nodes -/

namespace Document

variable (d : Document)

private def scalar? (node : Node) : Option Scalar :=
  match d.resolve node with
  | .scalar s => some s
  | _ => none

private def text? (node : Node) : Option String := (d.scalar? node).map (·.text)

private def items? (node : Node) : Option (List Node) :=
  match d.resolve node with
  | .sequence items => some items
  | .scalar s => if s.isBlank then some [] else none
  | _ => none

private def fields? (node : Node) : Option (List (String × Node)) :=
  match d.resolve node with
  | .mapping entries => entries.mapM fun (key, value) => (d.text? key).map (·, value)
  | .scalar s => if s.isBlank then some [] else none
  | _ => none

/-- The fields of a record. A known name may be given once. -/
private def record? (known : List String) (node : Node) : Option (List (String × Node)) := do
  let fields ← d.fields? node
  if known.all fun name => fields.countP (·.1 = name) ≤ 1 then some fields else none

private def optional? (read : Node → Option α) (node : Node) : Option (Option α) :=
  match d.resolve node with
  | .scalar s => s.isAbsent? >>= fun absent => if absent then some none else (read node).map some
  | _ => (read node).map some

end Document

/-- The value of a field, or its default if it is left out. -/
private def field (fields : List (String × Node)) (name : String) (default : α)
    (read : Node → Option α) : Option α :=
  match fields.lookup name with
  | none => some default
  | some node => read node

/-! ## Settings -/

namespace Document

variable (d : Document)

private def decimal? (node : Node) : Option Decimal := d.scalar? node >>= (·.decimal?)

private def flag? (node : Node) : Option Bool := d.scalar? node >>= (·.flag?)

private def logFormat? (node : Node) : Option LogFormat :=
  d.scalar? node >>= (·.choice?) >>= Named.ofName?

private def logSettings? (node : Node) : Option LogSettings := do
  let fields ← d.record? ["level", "format"] node
  let level ← field fields "level" "info" d.text?
  let format ← field fields "format" .compact d.logFormat?
  return { level, format }

/-- A table of rates. Of several rates of one country the last counts. -/
private def rates? (node : Node) : Option (List (String × Decimal)) := do
  let entries ← (← d.fields? node).mapM fun (country, rate) => (d.decimal? rate).map (country, ·)
  return entries.foldl (fun rates (country, rate) =>
    rates.filter (·.1 ≠ country) ++ [(country, rate)]) []

private def flatRates? (node : Node) : Option FlatRates := do
  let fields ← d.record? ["default_rate", "country_rates", "charge_taxes_on_shipping"] node
  let default ← field fields "default_rate" 0 d.decimal?
  let countries ← field fields "country_rates" [] d.rates?
  let chargeTaxesOnShipping ← field fields "charge_taxes_on_shipping" false d.flag?
  return { default, countries, chargeTaxesOnShipping }

private def settings? : Option Settings := do
  let fields ← d.record? ["allowed_client_hosts", "automatically_confirm_all_new_orders",
    "include_taxes_in_prices", "logging", "taxes"] d.root
  let allowedClientHosts ← field fields "allowed_client_hosts" [] fun hosts => do
    (← d.items? hosts).mapM d.text?
  let automaticallyConfirmOrders ←
    field fields "automatically_confirm_all_new_orders" true d.flag?
  let pricesIncludeTaxes ← field fields "include_taxes_in_prices" true d.flag?
  let logging ← field fields "logging" {} d.logSettings?
  let taxes ← field fields "taxes" none (d.optional? d.flatRates?)
  return { allowedClientHosts, automaticallyConfirmOrders, pricesIncludeTaxes, logging, taxes }

end Document

end Yaml

namespace Settings

/-- The settings that a text describes. -/
def ofText? (text : String) : Option Settings := Yaml.Document.ofText? text >>= (·.settings?)

/-- The settings in the contents of a file, which is nothing for a file that cannot be read. -/
def read (contents : Option String) : Except SettingsError Settings :=
  match contents with
  | none => .error .unreadable
  | some text => match ofText? text with
    | none => .error .malformed
    | some settings => .ok settings

end Settings

end Storefront
