/-!
# Blank texts

White space is more than the plain space: tabs and line breaks of every kind,
no-break and narrow spaces, and the spaces of particular widths.
-/

namespace TenantGuard.Text

/-- Whether a character is white space. -/
def isBlank (c : Char) : Bool :=
  let code := c.toNat
  (9 ≤ code && code ≤ 13) || code = 0x20 || code = 0x85 || code = 0xa0 || code = 0x1680 ||
    (0x2000 ≤ code && code ≤ 0x200a) || code = 0x2028 || code = 0x2029 || code = 0x202f ||
    code = 0x205f || code = 0x3000

/-- Whether a text holds nothing but white space. -/
def blank (text : String) : Bool :=
  text.toList.all isBlank

end TenantGuard.Text
