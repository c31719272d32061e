import SqlBench.Decimal.Reading
import SqlBench.Decimal.Written
import SqlBench.Json.Reader
import SqlBench.Text.Cut
import SqlBench.Text.Quoted
import SqlBench.Width
import SqlBench.Yaml.Node

set_option autoImplicit false

namespace SqlBench.Yaml

inductive Scalar where
  | unit
  | bool (b : Bool)
  | integer (n : Int)
  | real (x : Float)
  | text (s : String)

def isNull (s : String) : Bool :=
  s == "null" || s == "Null" || s == "NULL" || s == "~"

def bool? (s : String) : Option Bool :=
  if s == "true" || s == "True" || s == "TRUE" then some true
  else if s == "false" || s == "False" || s == "FALSE" then some false
  else none

def digits? (base : Nat) (s : List Char) : Option Nat :=
  if s.isEmpty then none
  else
    s.foldlM
      (fun n c =>
        match Json.hexValue? c with
        | some d => if d < base then some (n * base + d) else none
        | none => none)
      0

def hasIdleZero (s : List Char) : Bool :=
  let digits :=
    match s with
    | '-' :: rest => rest
    | '+' :: rest => rest
    | rest => rest
  match digits with
  | '0' :: rest => !rest.isEmpty && rest.all Char.isDigit
  | _ => false

def magnitude? (whole body : List Char) : Option Nat :=
  match body with
  | '0' :: 'x' :: rest => digits? 16 rest
  | '0' :: 'o' :: rest => digits? 8 rest
  | '0' :: 'b' :: rest => digits? 2 rest
  | rest => if hasIdleZero whole then none else digits? 10 rest

def integer? (s : List Char) : Option Int :=
  let natural := fun rest =>
    (magnitude? s rest).bind fun n => if n < Width.size 128 then some (Int.ofNat n) else none
  match s with
  | '-' :: rest =>
    (magnitude? s rest).bind fun n => if n ≤ Width.size 127 then some (-Int.ofNat n) else none
  | '+' :: rest => natural rest
  | rest => natural rest

def real? (s : List Char) : Option Float :=
  let text := String.ofList s
  let unsigned :=
    match s with
    | '+' :: '+' :: _ => none
    | '+' :: '-' :: _ => none
    | '+' :: rest => some rest
    | rest => some rest
  match unsigned with
  | none => none
  | some body =>
    let bodyText := String.ofList body
    if bodyText == ".inf" || bodyText == ".Inf" || bodyText == ".INF" then some (1.0 / 0.0)
    else if text == "-.inf" || text == "-.Inf" || text == "-.INF" then some (-1.0 / 0.0)
    else if text == ".nan" || text == ".NaN" || text == ".NAN" then some (0.0 / 0.0)
    else (Decimal.read body).filter Float.isFinite

namespace Scalar

def ofPlain (s : String) : Scalar :=
  if s.isEmpty || isNull s then .unit
  else
    match bool? s with
    | some b => .bool b
    | none =>
      match integer? s.toList with
      | some n => .integer n
      | none =>
        if hasIdleZero s.toList then .text s
        else
          match real? s.toList with
          | some x => .real x
          | none => .text s

def resolve (tag : Option String) (text : String) (style : Style) :
    Except String Scalar :=
  let byStyle := if style = .plain then ofPlain text else .text text
  match tag with
  | none => .ok byStyle
  | some "tag:yaml.org,2002:bool" =>
    match bool? text with
    | some b => .ok (.bool b)
    | none => .error "a boolean"
  | some "tag:yaml.org,2002:int" =>
    match integer? text.toList with
    | some n => .ok (.integer n)
    | none => .error "an integer"
  | some "tag:yaml.org,2002:float" =>
    match real? text.toList with
    | some x => .ok (.real x)
    | none => .error "a float"
  | some "tag:yaml.org,2002:null" => if isNull text then .ok .unit else .error "null"
  | some t => .ok (if t.startsWith "!" then byStyle else .text text)

def shown : Scalar → String
  | .unit => "unit value"
  | .bool b => "boolean `" ++ (if b then "true" else "false") ++ "`"
  | .integer n =>
    let width := if Width.fitsUnsigned 64 n || Width.fitsSigned 64 n then ""
      else if 0 ≤ n then " as u128" else " as i128"
    "integer `" ++ toString n ++ "`" ++ width
  | .real x => "floating point `" ++ Decimal.pointed.write x ++ "`"
  | .text s => "string " ++ Text.quoted s

end Scalar

end SqlBench.Yaml
