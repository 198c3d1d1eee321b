import DeliveryRules.Text.Hex
import DeliveryRules.Text.Utf8

/-! Percent escapes of addresses: a percent sign and two hexadecimal digits stand for a byte. -/

namespace DeliveryRules

/-- The bytes of text whose escapes are resolved, a percent sign with no digits staying as it is. -/
def unescapeBytes : List Char → List UInt8
  | '%' :: high :: low :: rest =>
    match hexValue? high, hexValue? low with
    | some a, some b => UInt8.ofNat (a * 16 + b) :: unescapeBytes rest
    | _, _ => '%'.toUInt8 :: unescapeBytes (high :: low :: rest)
  | c :: rest => (String.singleton c).toUTF8.toList ++ unescapeBytes rest
  | [] => []

/-- Text with its escapes resolved. -/
def unescape (text : String) : String :=
  String.ofList (utf8Characters (unescapeBytes text.toList))

end DeliveryRules
