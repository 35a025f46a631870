import LwipExt.CString

/-!
Addresses and frame checks of the common code: IPv4 addresses as the stack reads and
prints them (`core/ipv4/ip4_addr.c`), MAC addresses (`cmn/extCmnSysConfig.c`,
`cmn/extLwipUtils.c`) and the CRC of `cmn/extCmnUtils.c`.

An IPv4 address is the `u32_t` the code stores: network byte order, so the first octet
is the low byte.
-/

namespace LwipExt

/-! ### Characters -/

/-- `isdigit`. -/
def isDigit (c : UInt8) : Bool := 48 ≤ c && c ≤ 57

/-- `isspace`. -/
def isSpace (c : UInt8) : Bool := c = 32 || (9 ≤ c && c ≤ 13)

/-- The value of a hexadecimal digit. -/
def hexDigit (c : UInt8) : Option UInt8 :=
  if isDigit c then some (c - 48)
  else if 65 ≤ c && c ≤ 70 then some (c - 65 + 10)
  else if 97 ≤ c && c ≤ 102 then some (c - 97 + 10)
  else none

/-- The bytes of `%x`. -/
def hexadecimal (n : Nat) : Bytes := str (String.ofList (Nat.toDigits 16 n))

/-- The bytes of `%02x`, with the letters from `alpha` on. -/
def hexByte (alpha : UInt8) (b : UInt8) : Bytes :=
  [b / 16, b % 16].map fun d => if d < 10 then 48 + d else alpha + (d - 10)

/-- What `sscanf` with `%u` reads from a C string on a 32-bit machine: `strtoul`
saturates and applies the sign modulo 2 ^ 32. -/
def scanUnsigned (text : Bytes) : Option UInt32 :=
  let text := text.dropWhile isSpace
  let signed := text.head? = some 43 || text.head? = some 45
  let digits := (if signed then text.tail else text).takeWhile isDigit
  if digits = [] then none
  else
    let n : Nat := digits.foldl (fun n c => n * 10 + (c.toNat - 48)) 0
    if 4294967295 < n then some 4294967295
    else if text.head? = some 45 then some (0 - n.toUInt32)
    else some n.toUInt32

/-! ### IPv4 -/

/-- `IPADDR_NONE`. -/
def ipaddrNone : UInt32 := 0xffffffff

/-- `htonl` on a little-endian machine. -/
def htonl (n : UInt32) : UInt32 :=
  (n &&& 0xff) <<< 24 ||| (n &&& 0xff00) <<< 8 ||| (n &&& 0xff0000) >>> 8 ||| n >>> 24

/-- `IP_ADDR_IS_MULTICAST` and `ip4_addr_ismulticast`. -/
def ipAddrIsMulticast (addr : UInt32) : Bool := addr &&& 0xf0 = 0xe0

/-- The digits of one part of an address, in its base, and the text behind them. -/
def ipDigits (base val : UInt32) : Bytes → UInt32 × Bytes
  | [] => (val, [])
  | c :: cs =>
      if isDigit c then ipDigits base (val * base + (c - 48).toUInt32) cs
      else
        match if base = 16 then hexDigit c else none with
        | some d => ipDigits base (val <<< 4 ||| d.toUInt32) cs
        | none => (val, c :: cs)

/-- One part of an address: decimal, octal behind a `0`, hexadecimal behind `0x`. -/
def ipPart : Bytes → Option (UInt32 × Bytes)
  | [] => none
  | c :: cs =>
      if isDigit c then
        if c = 48 then
          match cs with
          | x :: rest => some (if x = 120 ∨ x = 88 then ipDigits 16 0 rest else ipDigits 8 0 cs)
          | [] => some (0, [])
        else some (ipDigits 10 0 (c :: cs))
      else none

/-- The parts of an address, at most `more + 1` of them, and the text behind. -/
def ipParts : (more : Nat) → Bytes → Option (List UInt32 × Bytes)
  | 0, text =>
      match ipPart text with
      | some (_, 46 :: _) => none
      | some (val, rest) => some ([val], rest)
      | none => none
  | more + 1, text =>
      match ipPart text with
      | some (val, 46 :: rest) =>
          (ipParts more rest).map fun (parts, rest) => (val :: parts, rest)
      | some (val, rest) => some ([val], rest)
      | none => none

/-- `ip4addr_aton`. -/
def ip4addrAton (cp : Bytes) : Option UInt32 :=
  match ipParts 3 cp with
  | none => none
  | some (parts, rest) =>
      if rest = [] ∨ rest.head?.any isSpace then
        match parts with
        | [a] => some (htonl a)
        | [a, b] => if b > 0xffffff ∨ a > 0xff then none else some (htonl (b ||| a <<< 24))
        | [a, b, c] =>
            if c > 0xffff ∨ a > 0xff ∨ b > 0xff then none
            else some (htonl (c ||| a <<< 24 ||| b <<< 16))
        | [a, b, c, d] =>
            if d > 0xff ∨ a > 0xff ∨ b > 0xff ∨ c > 0xff then none
            else some (htonl (d ||| a <<< 24 ||| b <<< 16 ||| c <<< 8))
        | _ => none
      else none

/-- `ipaddr_addr`. -/
def ipaddrAddr (cp : Bytes) : UInt32 := (ip4addrAton (cstr cp)).getD ipaddrNone

/-- `inet_ntoa`. -/
def inetNtoa (addr : UInt32) : Bytes :=
  let octet (shift : UInt32) := decimal ((addr >>> shift) &&& 0xff).toNat
  octet 0 ++ [46] ++ octet 8 ++ [46] ++ octet 16 ++ [46] ++ octet 24

/-! ### MAC addresses -/

/-- `EXT_MAC_ADDRESS`. -/
abbrev Mac := Vector UInt8 6

/-- `MAC_ADDR_IS_NULL`: bytes 2 and 3 are not looked at. -/
def macAddrIsNull (mac : Mac) : Bool := mac[0] = 0 && mac[1] = 0 && mac[4] = 0 && mac[5] = 0

/-- `MAC_ADDR_IS_BOARDCAST`: bytes 2 and 3 are not looked at. -/
def macAddrIsBoardcast (mac : Mac) : Bool :=
  mac[0] = 0xff && mac[1] = 0xff && mac[4] = 0xff && mac[5] = 0xff

/-- `MAC_ADDRESS_PRINT`. -/
def macAddressPrint (mac : Mac) : Bytes :=
  str "\"" ++ List.intercalate [58] (mac.toList.map (hexByte 97)) ++ str "\","

/-- `extSysAtoInt8`: the value written, and whether two hexadecimal digits were there. -/
def extSysAtoInt8 (text : Bytes) : UInt8 × Bool :=
  match text.head?.bind hexDigit with
  | none => (0, false)
  | some high =>
      match text.tail.head?.bind hexDigit with
      | none => (high, false)
      | some low => (high * 16 + low, true)

/-- The last `left` rounds of the loop of `extMacAddressParse`; `tmp` is where the round
before found its digits. -/
def macAddressBytes : (left : Nat) → Mac → Bytes → Mac × Bool
  | 0, mac, _ => (mac, true)
  | left + 1, mac, tmp =>
      let i := 5 - left
      let colon := tmp.dropWhile (· ≠ 58)
      if i ≠ 0 ∧ colon = [] then (mac, false)
      else
        let tmp := if i = 0 then tmp else colon.tail
        let (value, ok) := extSysAtoInt8 tmp
        let mac := mac.set! i value
        if ok then macAddressBytes left mac tmp else (mac, false)

/-- `extMacAddressParse`. The bytes before a failure are written all the same. -/
def extMacAddressParse (mac : Mac) (macStr : Bytes) : Mac × Bool :=
  macAddressBytes 6 mac (cstr macStr)

/-! ### CRC -/

/-- A `char` as the `unsigned int` it is assigned to. -/
def charToUInt (charSigned : Bool) (c : UInt8) : UInt32 :=
  if charSigned && 128 ≤ c then c.toUInt32 ||| 0xffffff00 else c.toUInt32

/-- One of the eight rounds for a byte. -/
def crcRound (crc : UInt32) : UInt32 := crc >>> 1 ^^^ (0xEDB88320 &&& (0 - (crc &&& 1)))

/-- `cmnMuxCRC32b`. -/
def cmnMuxCRC32b (charSigned : Bool) (message : Bytes) : UInt32 :=
  ~~~ message.foldl
    (fun crc c => Nat.repeat crcRound 8 (crc ^^^ charToUInt charSigned c)) 0xFFFFFFFF

end LwipExt
