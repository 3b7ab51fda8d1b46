import AttachmentFetch.Url.Punycode

/-! Names of hosts in the form in which they are asked for: in small letters,
with labels beyond ASCII in Punycode. -/
namespace AttachmentFetch.Url.HostName

def small (c : Char) : Char :=
  let code := c.toNat
  let even := code % 2 = 0
  let among (first last : Nat) : Bool := first ≤ code && code ≤ last
  if among 0x41 0x5A || (among 0xC0 0xDE && code ≠ 0xD7) || among 0x391 0x3A9 ||
      among 0x410 0x42F then Char.ofNat (code + 32)
  else if among 0x400 0x40F then Char.ofNat (code + 80)
  else if ((among 0x100 0x12E || among 0x132 0x136 || among 0x14A 0x176) && even) ||
      ((among 0x139 0x147 || among 0x179 0x17D) && !even) then Char.ofNat (code + 1)
  else if code = 0x178 then Char.ofNat 0xFF
  else c

def narrow (c : Char) : Char :=
  let code := c.toNat
  if 0xFF01 ≤ code ∧ code ≤ 0xFF5E then Char.ofNat (code - 0xFEE0)
  else if code = 0x3002 ∨ code = 0xFF61 then '.'
  else c

/-- What only tells where a word may be broken, or how a letter is drawn. -/
def isIgnored (c : Char) : Bool :=
  [0xAD, 0x200B, 0x2060, 0xFE0E, 0xFE0F, 0xFEFF].contains c.toNat

def label (text : List Char) : List Char :=
  if text.all Punycode.isAscii then text else "xn--".toList ++ Punycode.encode text

def toAscii (text : List Char) : List Char :=
  let folded := (text.filter (!isIgnored ·)).map fun c => small (narrow c)
  ['.'].intercalate ((folded.splitOn '.').map label)

end AttachmentFetch.Url.HostName
