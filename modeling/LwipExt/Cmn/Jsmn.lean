import LwipExt.CString

/-!
The JSON tokenizer `cmn/jsmn.c`, as it is compiled: not strict, without parent links.
It leaves out `toksuper` and `size`, which only serve each other.

Positions index the memory from the text on; behind the bytes given there are zeros.
-/

namespace LwipExt

/-- `jsmntype_t`. -/
inductive JsmnType where
  | undefined
  | object
  | array
  | string
  | primitive
  deriving DecidableEq, Repr

/-- `jsmntok_t`. `stop` is `end`; it is `none` (`-1`) while an object or array is open. -/
structure Jsmntok where
  type : JsmnType := .undefined
  start : Nat := 0
  stop : Option Nat := some 0
  deriving DecidableEq, Repr, Inhabited

/-- `enum jsmnerr`. -/
inductive JsmnError where
  | nomem
  | inval
  | part
  deriving DecidableEq, Repr

/-- `jsmn_parser` and the token array it fills. Tokens from `toknext` on are left over
from earlier texts. -/
structure Jsmn where
  pos : Nat := 0
  toknext : Nat := 0
  tokens : List Jsmntok
  deriving DecidableEq, Repr

/-- `EXT_JSON_TOKEN_SIZE`. -/
def extJsonTokenSize : Nat := 50 * 2

/-- The character at a position. -/
def jsAt (js : Bytes) (pos : Nat) : UInt8 := js.getD pos 0

/-- The loops of the parser go on at a position. -/
def inText (js : Bytes) (len pos : Nat) : Bool := pos < len && jsAt js pos ≠ 0

/-- `jsmn_alloc_token`, then fill the token. -/
def Jsmn.addToken (p : Jsmn) (token : Jsmntok) : Except JsmnError Jsmn :=
  if p.toknext ≥ extJsonTokenSize then .error .nomem
  else .ok { p with tokens := p.tokens.set p.toknext token, toknext := p.toknext + 1 }

/-- Where a primitive ends. `fuel` is what is left of the text. -/
def primitiveEnd (js : Bytes) (len : Nat) : (fuel pos : Nat) → Except JsmnError Nat
  | 0, pos => .ok pos
  | fuel + 1, pos =>
      if inText js len pos then
        let c := jsAt js pos
        if [58, 9, 13, 10, 32, 44, 93, 125].contains c then .ok pos
        else if c < 32 ∨ 127 ≤ c then .error .inval
        else primitiveEnd js len fuel (pos + 1)
      else .ok pos

/-- `jsmn_parse_primitive`. The character that ends it is looked at again. -/
def jsmnParsePrimitive (js : Bytes) (len : Nat) (p : Jsmn) : Except JsmnError Jsmn := do
  let found ← primitiveEnd js len (len - p.pos) p.pos
  let p' ← p.addToken { type := .primitive, start := p.pos, stop := some found }
  return { p' with pos := found - 1 }

/-- The hexadecimal digits of a `\u` escape, four if the text goes on that far. -/
def unicodeEnd (js : Bytes) (len : Nat) : (left pos : Nat) → Except JsmnError Nat
  | 0, pos => .ok pos
  | left + 1, pos =>
      if inText js len pos then
        let c := jsAt js pos
        if (48 ≤ c ∧ c ≤ 57) ∨ (65 ≤ c ∧ c ≤ 70) ∨ (97 ≤ c ∧ c ≤ 102) then
          unicodeEnd js len left (pos + 1)
        else .error .inval
      else .ok pos

/-- The closing quote of a string. `fuel` is what is left of the text. -/
def stringEnd (js : Bytes) (len : Nat) : (fuel pos : Nat) → Except JsmnError Nat
  | 0, _ => .error .part
  | fuel + 1, pos =>
      if inText js len pos then
        let c := jsAt js pos
        if c = 34 then .ok pos
        else if c = 92 ∧ pos + 1 < len then
          let escaped := jsAt js (pos + 1)
          if [34, 47, 92, 98, 102, 114, 110, 116].contains escaped then
            stringEnd js len fuel (pos + 2)
          else if escaped = 117 then
            match unicodeEnd js len 4 (pos + 2) with
            | .ok pos => stringEnd js len fuel pos
            | .error err => .error err
          else .error .inval
        else stringEnd js len fuel (pos + 1)
      else .error .part

/-- `jsmn_parse_string`. -/
def jsmnParseString (js : Bytes) (len : Nat) (p : Jsmn) : Except JsmnError Jsmn := do
  let quote ← stringEnd js len (len - p.pos) (p.pos + 1)
  let p' ← p.addToken { type := .string, start := p.pos + 1, stop := some quote }
  return { p' with pos := quote }

/-- The innermost object or array that is still open. -/
def Jsmn.openToken (p : Jsmn) : Option Nat :=
  (List.range p.toknext).reverse.find? fun i => (p.tokens.getD i default).stop = none

/-- A closing bracket. -/
def Jsmn.close (p : Jsmn) (type : JsmnType) : Except JsmnError Jsmn :=
  match p.openToken with
  | none => .error .inval
  | some i =>
      let token := p.tokens.getD i default
      if token.type ≠ type then .error .inval
      else .ok { p with tokens := p.tokens.set i { token with stop := some (p.pos + 1) } }

/-- The `switch` of `jsmn_parse` on the character at `pos`. `:` and `,` only move
`toksuper`. A failing step changes nothing. -/
def jsmnChar (js : Bytes) (len : Nat) (p : Jsmn) : Except JsmnError Jsmn :=
  let c := jsAt js p.pos
  if c = 123 then p.addToken { type := .object, start := p.pos, stop := none }
  else if c = 91 then p.addToken { type := .array, start := p.pos, stop := none }
  else if c = 125 then p.close .object
  else if c = 93 then p.close .array
  else if c = 34 then jsmnParseString js len p
  else if [9, 13, 10, 32, 58, 44].contains c then .ok p
  else jsmnParsePrimitive js len p

/-- The loop of `jsmn_parse`. `fuel` is what is left of the text. -/
def jsmnLoop (js : Bytes) (len : Nat) : (fuel : Nat) → Jsmn → Jsmn × Option JsmnError
  | 0, p => (p, none)
  | fuel + 1, p =>
      if inText js len p.pos then
        match jsmnChar js len p with
        | .ok p => jsmnLoop js len fuel { p with pos := p.pos + 1 }
        | .error err => (p, some err)
      else (p, none)

/-- `jsmn_parse` after `jsmn_init`. -/
def jsmnParse (js : Bytes) (len : Nat) (tokens : List Jsmntok) : Jsmn × Option JsmnError :=
  match jsmnLoop js len len { tokens := tokens } with
  | (p, none) => (p, if p.openToken.isSome then some .part else none)
  | failed => failed

/-- `jsoneq`. -/
def jsoneq (json : Bytes) (tok : Jsmntok) (s : Bytes) : Bool :=
  tok.type = .string && tok.stop = some (tok.start + s.length) &&
    (json.drop tok.start).take s.length = s

end LwipExt
