import TreeSchema.Text.CharacterName.Basic

/-!
Second names of characters: the controls, which have no name of their own, the usual
abbreviations, and the corrections of misnamed characters.
-/

namespace TreeSchema.Text

/-- The characters that go by other names, with those names, but for the selectors. -/
def nameAliases : List (Nat × List String) :=
  [
    (0x0, ["NULL", "NUL"]), (0x1, ["START OF HEADING", "SOH"]), (0x2, ["START OF TEXT", "STX"]),
    (0x3, ["END OF TEXT", "ETX"]), (0x4, ["END OF TRANSMISSION", "EOT"]), (0x5, ["ENQUIRY", "ENQ"]),
    (0x6, ["ACKNOWLEDGE", "ACK"]), (0x7, ["ALERT", "BEL"]), (0x8, ["BACKSPACE", "BS"]),
    (0x9, ["CHARACTER TABULATION", "HORIZONTAL TABULATION", "HT", "TAB"]),
    (0xa, ["LINE FEED", "NEW LINE", "END OF LINE", "EOL", "LF", "NL"]),
    (0xb, ["LINE TABULATION", "VERTICAL TABULATION", "VT"]), (0xc, ["FORM FEED", "FF"]),
    (0xd, ["CARRIAGE RETURN", "CR"]), (0xe, ["SHIFT OUT", "LOCKING-SHIFT ONE", "SO"]),
    (0xf, ["SHIFT IN", "LOCKING-SHIFT ZERO", "SI"]), (0x10, ["DATA LINK ESCAPE", "DLE"]),
    (0x11, ["DEVICE CONTROL ONE", "DC1"]), (0x12, ["DEVICE CONTROL TWO", "DC2"]),
    (0x13, ["DEVICE CONTROL THREE", "DC3"]), (0x14, ["DEVICE CONTROL FOUR", "DC4"]),
    (0x15, ["NEGATIVE ACKNOWLEDGE", "NAK"]), (0x16, ["SYNCHRONOUS IDLE", "SYN"]),
    (0x17, ["END OF TRANSMISSION BLOCK", "ETB"]), (0x18, ["CANCEL", "CAN"]),
    (0x19, ["END OF MEDIUM", "EOM"]), (0x1a, ["SUBSTITUTE", "SUB"]), (0x1b, ["ESCAPE", "ESC"]),
    (0x1c, ["INFORMATION SEPARATOR FOUR", "FILE SEPARATOR", "FS"]),
    (0x1d, ["INFORMATION SEPARATOR THREE", "GROUP SEPARATOR", "GS"]),
    (0x1e, ["INFORMATION SEPARATOR TWO", "RECORD SEPARATOR", "RS"]),
    (0x1f, ["INFORMATION SEPARATOR ONE", "UNIT SEPARATOR", "US"]), (0x20, ["SP"]),
    (0x7f, ["DELETE", "DEL"]), (0x80, ["PADDING CHARACTER", "PAD"]),
    (0x81, ["HIGH OCTET PRESET", "HOP"]), (0x82, ["BREAK PERMITTED HERE", "BPH"]),
    (0x83, ["NO BREAK HERE", "NBH"]), (0x84, ["INDEX", "IND"]), (0x85, ["NEXT LINE", "NEL"]),
    (0x86, ["START OF SELECTED AREA", "SSA"]), (0x87, ["END OF SELECTED AREA", "ESA"]),
    (0x88, ["CHARACTER TABULATION SET", "HORIZONTAL TABULATION SET", "HTS"]),
    (0x89, ["CHARACTER TABULATION WITH JUSTIFICATION", "HORIZONTAL TABULATION WITH JUSTIFICATION",
      "HTJ"]), (0x8a, ["LINE TABULATION SET", "VERTICAL TABULATION SET", "VTS"]),
    (0x8b, ["PARTIAL LINE FORWARD", "PARTIAL LINE DOWN", "PLD"]),
    (0x8c, ["PARTIAL LINE BACKWARD", "PARTIAL LINE UP", "PLU"]),
    (0x8d, ["REVERSE LINE FEED", "REVERSE INDEX", "RI"]),
    (0x8e, ["SINGLE SHIFT TWO", "SINGLE-SHIFT-2", "SS2"]),
    (0x8f, ["SINGLE SHIFT THREE", "SINGLE-SHIFT-3", "SS3"]),
    (0x90, ["DEVICE CONTROL STRING", "DCS"]), (0x91, ["PRIVATE USE ONE", "PRIVATE USE-1", "PU1"]),
    (0x92, ["PRIVATE USE TWO", "PRIVATE USE-2", "PU2"]), (0x93, ["SET TRANSMIT STATE", "STS"]),
    (0x94, ["CANCEL CHARACTER", "CCH"]), (0x95, ["MESSAGE WAITING", "MW"]),
    (0x96, ["START OF GUARDED AREA", "START OF PROTECTED AREA", "SPA"]),
    (0x97, ["END OF GUARDED AREA", "END OF PROTECTED AREA", "EPA"]),
    (0x98, ["START OF STRING", "SOS"]), (0x99, ["SINGLE GRAPHIC CHARACTER INTRODUCER", "SGC"]),
    (0x9a, ["SINGLE CHARACTER INTRODUCER", "SCI"]), (0x9b, ["CONTROL SEQUENCE INTRODUCER", "CSI"]),
    (0x9c, ["STRING TERMINATOR", "ST"]), (0x9d, ["OPERATING SYSTEM COMMAND", "OSC"]),
    (0x9e, ["PRIVACY MESSAGE", "PM"]), (0x9f, ["APPLICATION PROGRAM COMMAND", "APC"]),
    (0xa0, ["NBSP"]), (0xad, ["SHY"]), (0x1a2, ["LATIN CAPITAL LETTER GHA"]),
    (0x1a3, ["LATIN SMALL LETTER GHA"]), (0x34f, ["CGJ"]), (0x61c, ["ALM"]),
    (0x709, ["SYRIAC SUBLINEAR COLON SKEWED LEFT"]), (0xcde, ["KANNADA LETTER LLLA"]),
    (0xe9d, ["LAO LETTER FO FON"]), (0xe9f, ["LAO LETTER FO FAY"]), (0xea3, ["LAO LETTER RO"]),
    (0xea5, ["LAO LETTER LO"]), (0xfd0, ["TIBETAN MARK BKA- SHOG GI MGO RGYAN"]),
    (0x11ec, ["HANGUL JONGSEONG YESIEUNG-KIYEOK"]),
    (0x11ed, ["HANGUL JONGSEONG YESIEUNG-SSANGKIYEOK"]),
    (0x11ee, ["HANGUL JONGSEONG SSANGYESIEUNG"]), (0x11ef, ["HANGUL JONGSEONG YESIEUNG-KHIEUKH"]),
    (0x180b, ["FVS1"]), (0x180c, ["FVS2"]), (0x180d, ["FVS3"]), (0x180e, ["MVS"]),
    (0x180f, ["FVS4"]), (0x200b, ["ZWSP"]), (0x200c, ["ZWNJ"]), (0x200d, ["ZWJ"]),
    (0x200e, ["LRM"]), (0x200f, ["RLM"]), (0x202a, ["LRE"]), (0x202b, ["RLE"]), (0x202c, ["PDF"]),
    (0x202d, ["LRO"]), (0x202e, ["RLO"]), (0x202f, ["NNBSP"]), (0x205f, ["MMSP"]), (0x2060, ["WJ"]),
    (0x2066, ["LRI"]), (0x2067, ["RLI"]), (0x2068, ["FSI"]), (0x2069, ["PDI"]),
    (0x2118, ["WEIERSTRASS ELLIPTIC FUNCTION"]), (0x2448, ["MICR ON US SYMBOL"]),
    (0x2449, ["MICR DASH SYMBOL"]),
    (0x2b7a, ["LEFTWARDS TRIANGLE-HEADED ARROW WITH DOUBLE VERTICAL STROKE"]),
    (0x2b7c, ["RIGHTWARDS TRIANGLE-HEADED ARROW WITH DOUBLE VERTICAL STROKE"]),
    (0xa015, ["YI SYLLABLE ITERATION MARK"]), (0xaa6e, ["MYANMAR LETTER KHAMTI LLA"]),
    (0xfe18, ["PRESENTATION FORM FOR VERTICAL RIGHT WHITE LENTICULAR BRACKET"]),
    (0xfeff, ["BYTE ORDER MARK", "BOM", "ZWNBSP"]), (0x122d4, ["CUNEIFORM SIGN NU11 TENU"]),
    (0x122d5, ["CUNEIFORM SIGN NU11 OVER NU11 BUR OVER BUR"]),
    (0x16e56, ["MEDEFAIDRIN CAPITAL LETTER H"]), (0x16e57, ["MEDEFAIDRIN CAPITAL LETTER NG"]),
    (0x16e76, ["MEDEFAIDRIN SMALL LETTER H"]), (0x16e77, ["MEDEFAIDRIN SMALL LETTER NG"]),
    (0x1b001, ["HENTAIGANA LETTER E-1"]),
    (0x1d0c5, ["BYZANTINE MUSICAL SYMBOL FTHORA SKLIRON CHROMA VASIS"])]

/-- The abbreviations for selectors of variations. -/
def selectorAliases : List NameRun :=
  [
    ⟨0xfe00, "VS", ["1|2|3|4|5|6|7|8|9|10|11|12|13|14|15|16"]⟩,
    ⟨0xe0100, "VS", [
      "17|18|19|20|21|22|23|24|25|26|27|28|29|30|31|32|33|34|35|36|37|38|39|40|41|42|43|44|45|46",
      "47|48|49|50|51|52|53|54|55|56|57|58|59|60|61|62|63|64|65|66|67|68|69|70|71|72|73|74|75|76",
      "77|78|79|80|81|82|83|84|85|86|87|88|89|90|91|92|93|94|95|96|97|98|99|100|101|102|103|104",
      "105|106|107|108|109|110|111|112|113|114|115|116|117|118|119|120|121|122|123|124|125|126",
      "127|128|129|130|131|132|133|134|135|136|137|138|139|140|141|142|143|144|145|146|147|148",
      "149|150|151|152|153|154|155|156|157|158|159|160|161|162|163|164|165|166|167|168|169|170",
      "171|172|173|174|175|176|177|178|179|180|181|182|183|184|185|186|187|188|189|190|191|192",
      "193|194|195|196|197|198|199|200|201|202|203|204|205|206|207|208|209|210|211|212|213|214",
      "215|216|217|218|219|220|221|222|223|224|225|226|227|228|229|230|231|232|233|234|235|236",
      "237|238|239|240|241|242|243|244|245|246|247|248|249|250|251|252|253|254|255|256"]⟩]

end TreeSchema.Text
