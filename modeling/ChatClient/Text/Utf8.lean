/-!
# UTF-8

The characters that a byte string spells.  `chars` reads it from left to right and yields `none` for each longest
start of a character that does not go on as one (a byte that starts nothing counts alone), so the number of bytes it
cannot read is as small as can be.  `decode?`  is the reading of well-formed text, `decodeLossy` the one that shows
every fault as U+FFFD.
-/
namespace ChatClient.Text.Utf8

def isTail (b : UInt8) : Bool :=
  0x80 ≤ b && b ≤ 0xbf

def tailBits (b : UInt8) : Nat :=
  b.toNat % 64

/-- Which bytes may come second after the first byte of a character of three or four bytes: overlong forms, surrogates
and numbers above U+10FFFF are ruled out here. -/
def isSecond (first second : UInt8) : Bool :=
  if first == 0xe0 then 0xa0 ≤ second && second ≤ 0xbf
  else if first == 0xed then 0x80 ≤ second && second ≤ 0x9f
  else if first == 0xf0 then 0x90 ≤ second && second ≤ 0xbf
  else if first == 0xf4 then 0x80 ≤ second && second ≤ 0x8f
  else isTail second

/-- The characters of a byte string, with `none` for each fault. -/
def chars : List UInt8 → List (Option Char)
  | [] => []
  | a :: r =>
    if a < 0x80 then some (Char.ofNat a.toNat) :: chars r
    else if 0xc2 ≤ a && a ≤ 0xdf then
      match r with
      | b :: r' =>
        if isTail b then some (Char.ofNat (a.toNat % 32 * 64 + tailBits b)) :: chars r'
        else none :: chars (b :: r')
      | [] => [none]
    else if 0xe0 ≤ a && a ≤ 0xef then
      match r with
      | b :: r' =>
        if isSecond a b then
          match r' with
          | c :: r'' =>
            if isTail c then
              some (Char.ofNat ((a.toNat % 16 * 64 + tailBits b) * 64 + tailBits c)) :: chars r''
            else none :: chars (c :: r'')
          | [] => [none]
        else none :: chars (b :: r')
      | [] => [none]
    else if 0xf0 ≤ a && a ≤ 0xf4 then
      match r with
      | b :: r' =>
        if isSecond a b then
          match r' with
          | c :: r'' =>
            if isTail c then
              match r'' with
              | d :: r''' =>
                if isTail d then
                  some (Char.ofNat (((a.toNat % 8 * 64 + tailBits b) * 64 + tailBits c) * 64 + tailBits d)) ::
                    chars r'''
                else none :: chars (d :: r''')
              | [] => [none]
            else none :: chars (c :: r'')
          | [] => [none]
        else none :: chars (b :: r')
      | [] => [none]
    else none :: chars r

def decode? (bytes : List UInt8) : Option String :=
  ((chars bytes).mapM id).map String.ofList

/-- The text of any byte string, every fault as U+FFFD. -/
def decodeLossy (bytes : List UInt8) : String :=
  String.ofList ((chars bytes).map (·.getD '\uFFFD'))

def encode (s : String) : List UInt8 :=
  s.toUTF8.data.toList

end ChatClient.Text.Utf8
