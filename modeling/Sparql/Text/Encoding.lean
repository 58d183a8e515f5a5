import Sparql.Text.Kanji
import Sparql.Text.Utf8

/-!
# Encodings

The encodings of texts as bytes, by the names under which documents declare them.
-/

/-!
## Code pages

Encodings of one byte for a character. The lower half is ASCII throughout; a table gives the characters of
the upper half in ascending order, with U+FFFD for a byte that stands for none.
-/

namespace Sparql.Text.CodePage

/-- The controls that stand between ASCII and the letters of the pages of ISO 8859. -/
def controls : List Char := (List.range 32).map fun offset => Char.ofNat (128 + offset)

/-- The characters from 160 on of a page of ISO 8859, by its number. -/
def isoLetters? (page : Nat) : Option String :=
  match page with
  | 2 => some ("\u00a0Ą˘Ł¤ĽŚ§¨ŠŞŤŹ\u00adŽŻ°ą˛ł´ľśˇ¸šşťź˝žżŔÁÂĂÄĹĆÇČÉĘËĚÍÎĎ" ++
    "ĐŃŇÓÔŐÖ×ŘŮÚŰÜÝŢßŕáâăäĺćçčéęëěíîďđńňóôőö÷řůúűüýţ˙")
  | 3 => some ("\u00a0Ħ˘£¤�Ĥ§¨İŞĞĴ\u00ad�Ż°ħ²³´µĥ·¸ışğĵ½�żÀÁÂ�ÄĊĈÇÈÉÊËÌÍÎÏ" ++
    "�ÑÒÓÔĠÖ×ĜÙÚÛÜŬŜßàáâ�äċĉçèéêëìíîï�ñòóôġö÷ĝùúûüŭŝ˙")
  | 4 => some ("\u00a0ĄĸŖ¤ĨĻ§¨ŠĒĢŦ\u00adŽ¯°ą˛ŗ´ĩļˇ¸šēģŧŊžŋĀÁÂÃÄÅÆĮČÉĘËĖÍÎĪ" ++
    "ĐŅŌĶÔÕÖ×ØŲÚÛÜŨŪßāáâãäåæįčéęëėíîīđņōķôõö÷øųúûüũū˙")
  | 5 => some ("\u00a0ЁЂЃЄЅІЇЈЉЊЋЌ\u00adЎЏАБВГДЕЖЗИЙКЛМНОПРСТУФХЦЧШЩЪЫЬЭЮЯ" ++
    "абвгдежзийклмнопрстуфхцчшщъыьэюя№ёђѓєѕіїјљњћќ§ўџ")
  | 6 => some ("\u00a0���¤�������،\u00ad�������������؛���؟�ءآأؤإئابةتثجحخد" ++
    "ذرزسشصضطظعغ�����ـفقكلمنهوىي\u064b\u064c\u064d\u064e\u064f\u0650\u0651\u0652�������������")
  | 7 => some ("\u00a0‘’£€₯¦§¨©ͺ«¬\u00ad�―°±²³΄΅Ά·ΈΉΊ»Ό½ΎΏΐΑΒΓΔΕΖΗΘΙΚΛΜΝΞΟ" ++
    "ΠΡ�ΣΤΥΦΧΨΩΪΫάέήίΰαβγδεζηθικλμνξοπρςστυφχψωϊϋόύώ�")
  | 8 => some ("\u00a0�¢£¤¥¦§¨©×«¬\u00ad®¯°±²³´µ¶·¸¹÷»¼½¾�����������������" ++
    "���������������‗אבגדהוזחטיךכלםמןנסעףפץצקרשת��\u200e\u200f�")
  | 9 => some ("\u00a0¡¢£¤¥¦§¨©ª«¬\u00ad®¯°±²³´µ¶·¸¹º»¼½¾¿ÀÁÂÃÄÅÆÇÈÉÊËÌÍÎÏ" ++
    "ĞÑÒÓÔÕÖ×ØÙÚÛÜİŞßàáâãäåæçèéêëìíîïğñòóôõö÷øùúûüışÿ")
  | 10 => some ("\u00a0ĄĒĢĪĨĶ§ĻĐŠŦŽ\u00adŪŊ°ąēģīĩķ·ļđšŧž―ūŋĀÁÂÃÄÅÆĮČÉĘËĖÍÎÏ" ++
    "ÐŅŌÓÔÕÖŨØŲÚÛÜÝÞßāáâãäåæįčéęëėíîïðņōóôõöũøųúûüýþĸ")
  | 11 => some ("\u00a0กขฃคฅฆงจฉชซฌญฎฏฐฑฒณดตถทธนบปผฝพฟภมยรฤลฦวศษสหฬอฮฯ" ++
    "ะ\u0e31าำ\u0e34\u0e35\u0e36\u0e37\u0e38\u0e39\u0e3a����฿เแโใไๅๆ\u0e47\u0e48\u0e49\u0e4a\u0e4b\u0e4c\u0e4d\u0e4e๏๐๑๒๓๔๕๖๗๘๙๚๛����")
  | 13 => some ("\u00a0”¢£¤„¦§Ø©Ŗ«¬\u00ad®Æ°±²³“µ¶·ø¹ŗ»¼½¾æĄĮĀĆÄÅĘĒČÉŹĖĢĶĪĻ" ++
    "ŠŃŅÓŌÕÖ×ŲŁŚŪÜŻŽßąįāćäåęēčéźėģķīļšńņóōõö÷ųłśūüżž’")
  | 14 => some ("\u00a0Ḃḃ£ĊċḊ§Ẁ©ẂḋỲ\u00ad®ŸḞḟĠġṀṁ¶ṖẁṗẃṠỳẄẅṡÀÁÂÃÄÅÆÇÈÉÊËÌÍÎÏ" ++
    "ŴÑÒÓÔÕÖṪØÙÚÛÜÝŶßàáâãäåæçèéêëìíîïŵñòóôõöṫøùúûüýŷÿ")
  | 15 => some ("\u00a0¡¢£€¥Š§š©ª«¬\u00ad®¯°±²³Žµ¶·ž¹º»ŒœŸ¿ÀÁÂÃÄÅÆÇÈÉÊËÌÍÎÏ" ++
    "ÐÑÒÓÔÕÖ×ØÙÚÛÜÝÞßàáâãäåæçèéêëìíîïðñòóôõö÷øùúûüýþÿ")
  | 16 => some ("\u00a0ĄąŁ€„Š§š©Ș«Ź\u00adźŻ°±ČłŽ”¶·žčș»ŒœŸżÀÁÂĂÄĆÆÇÈÉÊËÌÍÎÏ" ++
    "ĐŃÒÓÔŐÖŚŰÙÚÛÜĘȚßàáâăäćæçèéêëìíîïđńòóôőöśűùúûüęțÿ")
  | _ => none

/-- The upper half of a page of Windows, by its number. -/
def windowsLetters? (page : Nat) : Option String :=
  match page with
  | 1250 => some ("€�‚�„…†‡�‰Š‹ŚŤŽŹ�‘’“”•–—�™š›śťžź\u00a0ˇ˘Ł¤Ą¦§¨©Ş«¬\u00ad®Ż" ++
    "°±˛ł´µ¶·¸ąş»Ľ˝ľżŔÁÂĂÄĹĆÇČÉĘËĚÍÎĎĐŃŇÓÔŐÖ×ŘŮÚŰÜÝŢß" ++
    "ŕáâăäĺćçčéęëěíîďđńňóôőö÷řůúűüýţ˙")
  | 1251 => some ("ЂЃ‚ѓ„…†‡€‰Љ‹ЊЌЋЏђ‘’“”•–—�™љ›њќћџ\u00a0ЎўЈ¤Ґ¦§Ё©Є«¬\u00ad®Ї" ++
    "°±Ііґµ¶·ё№є»јЅѕїАБВГДЕЖЗИЙКЛМНОПРСТУФХЦЧШЩЪЫЬЭЮЯ" ++
    "абвгдежзийклмнопрстуфхцчшщъыьэюя")
  | 1252 => some ("€�‚ƒ„…†‡ˆ‰Š‹Œ�Ž��‘’“”•–—˜™š›œ�žŸ\u00a0¡¢£¤¥¦§¨©ª«¬\u00ad®¯" ++
    "°±²³´µ¶·¸¹º»¼½¾¿ÀÁÂÃÄÅÆÇÈÉÊËÌÍÎÏÐÑÒÓÔÕÖ×ØÙÚÛÜÝÞß" ++
    "àáâãäåæçèéêëìíîïðñòóôõö÷øùúûüýþÿ")
  | 1253 => some ("€�‚ƒ„…†‡�‰�‹�����‘’“”•–—�™�›����\u00a0΅Ά£¤¥¦§¨©�«¬\u00ad®―" ++
    "°±²³΄µ¶·ΈΉΊ»Ό½ΎΏΐΑΒΓΔΕΖΗΘΙΚΛΜΝΞΟΠΡ�ΣΤΥΦΧΨΩΪΫάέήί" ++
    "ΰαβγδεζηθικλμνξοπρςστυφχψωϊϋόύώ�")
  | 1254 => some ("€�‚ƒ„…†‡ˆ‰Š‹Œ����‘’“”•–—˜™š›œ��Ÿ\u00a0¡¢£¤¥¦§¨©ª«¬\u00ad®¯" ++
    "°±²³´µ¶·¸¹º»¼½¾¿ÀÁÂÃÄÅÆÇÈÉÊËÌÍÎÏĞÑÒÓÔÕÖ×ØÙÚÛÜİŞß" ++
    "àáâãäåæçèéêëìíîïğñòóôõö÷øùúûüışÿ")
  | 1255 => some ("€�‚ƒ„…†‡ˆ‰�‹�����‘’“”•–—˜™�›����\u00a0¡¢£₪¥¦§¨©×«¬\u00ad®¯" ++
    "°±²³´µ¶·¸¹÷»¼½¾¿\u05b0\u05b1\u05b2\u05b3\u05b4\u05b5\u05b6\u05b7\u05b8\u05b9�\u05bb\u05bc\u05bd\u05be\u05bf\u05c0\u05c1\u05c2\u05c3װױײ׳״�������" ++
    "אבגדהוזחטיךכלםמןנסעףפץצקרשת��\u200e\u200f�")
  | 1256 => some ("€پ‚ƒ„…†‡ˆ‰ٹ‹Œچژڈگ‘’“”•–—ک™ڑ›œ\u200c\u200dں\u00a0،¢£¤¥¦§¨©ھ«¬\u00ad®¯" ++
    "°±²³´µ¶·¸¹؛»¼½¾؟ہءآأؤإئابةتثجحخدذرزسشصض×طظعغـفقك" ++
    "àلâمنهوçèéêëىيîï\u064b\u064c\u064d\u064eô\u064f\u0650÷\u0651ù\u0652ûü\u200e\u200fے")
  | 1257 => some ("€�‚�„…†‡�‰�‹�¨ˇ¸�‘’“”•–—�™�›�¯˛�\u00a0�¢£¤�¦§Ø©Ŗ«¬\u00ad®Æ" ++
    "°±²³´µ¶·ø¹ŗ»¼½¾æĄĮĀĆÄÅĘĒČÉŹĖĢĶĪĻŠŃŅÓŌÕÖ×ŲŁŚŪÜŻŽß" ++
    "ąįāćäåęēčéźėģķīļšńņóōõö÷ųłśūüżž˙")
  | 1258 => some ("€�‚ƒ„…†‡ˆ‰�‹Œ����‘’“”•–—˜™�›œ��Ÿ\u00a0¡¢£¤¥¦§¨©ª«¬\u00ad®¯" ++
    "°±²³´µ¶·¸¹º»¼½¾¿ÀÁÂĂÄÅÆÇÈÉÊË\u0300ÍÎÏĐÑ\u0309ÓÔƠÖ×ØÙÚÛÜƯ\u0303ß" ++
    "àáâăäåæçèéêë\u0301íîïđñ\u0323óôơö÷øùúûüư₫ÿ")
  | 874 => some ("€����…�����������‘’“”•–—��������\u00a0กขฃคฅฆงจฉชซฌญฎฏ" ++
    "ฐฑฒณดตถทธนบปผฝพฟภมยรฤลฦวศษสหฬอฮฯะ\u0e31าำ\u0e34\u0e35\u0e36\u0e37\u0e38\u0e39\u0e3a����฿" ++
    "เแโใไๅๆ\u0e47\u0e48\u0e49\u0e4a\u0e4b\u0e4c\u0e4d\u0e4e๏๐๑๒๓๔๕๖๗๘๙๚๛����")
  | _ => none

/-- The upper half of a page of other systems, by its name in lower case. -/
def otherLetters? (name : String) : Option String :=
  match name with
  | "koi8-r" => some ("─│┌┐└┘├┤┬┴┼▀▄█▌▐░▒▓⌠■∙√≈≤≥\u00a0⌡°²·÷═║╒ё╓╔╕╖╗╘╙╚╛╜╝╞" ++
    "╟╠╡Ё╢╣╤╥╦╧╨╩╪╫╬©юабцдефгхийклмнопярстужвьызшэщчъ" ++
    "ЮАБЦДЕФГХИЙКЛМНОПЯРСТУЖВЬЫЗШЭЩЧЪ")
  | "koi8-u" => some ("─│┌┐└┘├┤┬┴┼▀▄█▌▐░▒▓⌠■∙√≈≤≥\u00a0⌡°²·÷═║╒ёє╔ії╗╘╙╚╛ґ╝╞" ++
    "╟╠╡ЁЄ╣ІЇ╦╧╨╩╪Ґ╬©юабцдефгхийклмнопярстужвьызшэщчъ" ++
    "ЮАБЦДЕФГХИЙКЛМНОПЯРСТУЖВЬЫЗШЭЩЧЪ")
  | "cp437" | "ibm437" => some ("ÇüéâäàåçêëèïîìÄÅÉæÆôöòûùÿÖÜ¢£¥₧ƒáíóúñÑªº¿⌐¬½¼¡«»" ++
    "░▒▓│┤╡╢╖╕╣║╗╝╜╛┐└┴┬├─┼╞╟╚╔╩╦╠═╬╧╨╤╥╙╘╒╓╫╪┘┌█▄▌▐▀" ++
    "αßΓπΣσµτΦΘΩδ∞φε∩≡±≥≤⌠⌡÷≈°∙·√ⁿ²■\u00a0")
  | "cp850" | "ibm850" => some ("ÇüéâäàåçêëèïîìÄÅÉæÆôöòûùÿÖÜø£Ø×ƒáíóúñÑªº¿®¬½¼¡«»" ++
    "░▒▓│┤ÁÂÀ©╣║╗╝¢¥┐└┴┬├─┼ãÃ╚╔╩╦╠═╬¤ðÐÊËÈıÍÎÏ┘┌█▄¦Ì▀" ++
    "ÓßÔÒõÕµþÞÚÛÙýÝ¯´\u00ad±‗¾¶§÷¸°¨·¹³²■\u00a0")
  | "cp852" | "ibm852" => some ("ÇüéâäůćçłëŐőîŹÄĆÉĹĺôöĽľŚśÖÜŤťŁ×čáíóúĄąŽžĘę¬źČş«»" ++
    "░▒▓│┤ÁÂĚŞ╣║╗╝Żż┐└┴┬├─┼Ăă╚╔╩╦╠═╬¤đĐĎËďŇÍÎě┘┌█▄ŢŮ▀" ++
    "ÓßÔŃńňŠšŔÚŕŰýÝţ´\u00ad˝˛ˇ˘§÷¸°¨˙űŘř■\u00a0")
  | "cp855" | "ibm855" => some ("ђЂѓЃёЁєЄѕЅіІїЇјЈљЉњЊћЋќЌўЎџЏюЮъЪаАбБцЦдДеЕфФгГ«»" ++
    "░▒▓│┤хХиИ╣║╗╝йЙ┐└┴┬├─┼кК╚╔╩╦╠═╬¤лЛмМнНоОп┘┌█▄Пя▀" ++
    "ЯрРсСтТуУжЖвВьЬ№\u00adыЫзЗшШэЭщЩчЧ§■\u00a0")
  | "cp866" | "ibm866" => some ("АБВГДЕЖЗИЙКЛМНОПРСТУФХЦЧШЩЪЫЬЭЮЯабвгдежзийклмноп" ++
    "░▒▓│┤╡╢╖╕╣║╗╝╜╛┐└┴┬├─┼╞╟╚╔╩╦╠═╬╧╨╤╥╙╘╒╓╫╪┘┌█▄▌▐▀" ++
    "рстуфхцчшщъыьэюяЁёЄєЇїЎў°∙·√№¤■\u00a0")
  | "macintosh" | "mac" | "macroman" => some ("ÄÅÇÉÑÖÜáàâäãåçéèêëíìîïñóòôöõúùûü†°¢£§•¶ß®©™´¨≠ÆØ" ++
    "∞±≤≥¥µ∂∑∏π∫ªºΩæø¿¡¬√ƒ≈∆«»…\u00a0ÀÃÕŒœ–—“”‘’÷◊ÿŸ⁄€‹›ﬁﬂ" ++
    "‡·‚„‰ÂÊÁËÈÍÎÏÌÓÔÒÚÛÙıˆ˜¯˘˙˚¸˝˛ˇ")
  | _ => none

/-- The upper half of a page of ISO 8859, by its number. -/
def iso? (page : Nat) : Option (List Char) := (isoLetters? page).map fun letters => controls ++ letters.toList

/-- The text of bytes with a given upper half. -/
def decode? (upper : List Char) (bytes : List UInt8) : Option (List Char) :=
  let table := upper.toArray
  bytes.mapM fun byte =>
    if byte < 128 then some (Char.ofNat byte.toNat)
    else (table[byte.toNat - 128]?).filter (· ≠ '\uFFFD')

end Sparql.Text.CodePage

namespace Sparql.Text

/-- A way to write a text as bytes. -/
inductive Encoding where
  | utf8
  /-- Units of two bytes. -/
  | utf16 (isBig : Bool)
  /-- Units of four bytes. -/
  | utf32 (isBig : Bool)
  /-- One byte for each of the first 256 characters. -/
  | latin
  /-- One byte for a character, with a given upper half. -/
  | page (upper : List Char)
  | shiftedKanji
  | extendedKanji
deriving DecidableEq, Repr

namespace Encoding

/-- The number behind one of some beginnings of a name. -/
def numberAfter? (beginnings : List String) (name : String) : Option Nat :=
  beginnings.findSome? fun beginning =>
    if name.startsWith beginning then
      let digits := name.toList.drop beginning.length
      if digits.isEmpty || !digits.all Char.isDigit || digits.head? = some '0' then none
      else some (digits.foldl (fun sum c => sum * 10 + (c.toNat - 48)) 0)
    else none

/-- The encoding of a name in lower case that a table gives. -/
def ofTable? (name : String) : Option Encoding :=
  let upper := ((numberAfter? ["iso-8859-", "iso8859-", "iso_8859-"] name).bind CodePage.iso?).or
    ((((numberAfter? ["windows-", "cp"] name).bind CodePage.windowsLetters?).or
      (CodePage.otherLetters? name)).map String.toList)
  upper.map page

/-- The page of ISO 8859 that another name in lower case stands for. -/
def isoPage? (name : String) : Option Nat :=
  match name with
  | "latin2" | "l2" => some 2
  | "latin3" | "l3" => some 3
  | "latin4" | "l4" => some 4
  | "cyrillic" => some 5
  | "arabic" => some 6
  | "greek" => some 7
  | "hebrew" => some 8
  | "latin5" | "l5" => some 9
  | "latin6" | "l6" => some 10
  | "latin7" | "l7" => some 13
  | "latin8" | "l8" => some 14
  | "latin-9" => some 15
  | "latin10" | "l10" => some 16
  | _ => none

/-- The encoding of a name, in either case. Units of more bytes than one are told by their first bytes and
have no name here. -/
def ofName? (name : String) : Option Encoding :=
  let name := String.ofList (name.toList.map Char.toLower)
  match name with
  | "utf-8" | "utf8" => some .utf8
  | "iso-8859-1" | "iso8859-1" | "iso_8859-1" | "latin1" | "l1" | "iso-latin-1" => some .latin
  | "us-ascii" | "ascii" | "us" => some (.page [])
  | "shift_jis" | "shift-jis" | "sjis" | "ms_kanji" => some .shiftedKanji
  | "euc-jp" | "eucjp" => some .extendedKanji
  | _ => (ofTable? name).or ((isoPage? name).bind fun page => (CodePage.iso? page).map Encoding.page)

/-- A code as a character. -/
def char? (code : Nat) : Option Char :=
  if code < 0xD800 || (0xDFFF < code && code < 0x110000) then some (Char.ofNat code) else none

/-- The value of some bytes, of which the first weighs most if the encoding is big. -/
def unit (isBig : Bool) (bytes : List UInt8) : Nat :=
  (if isBig then bytes else bytes.reverse).foldl (fun sum byte => sum * 256 + byte.toNat) 0

/-- The text of units of two bytes, after some characters, which stand in reverse. Two units of the ranges
kept for that make one character. -/
def decode16Onto (isBig : Bool) (read : List Char) (high : Option Nat) : List UInt8 → Option (List Char)
  | [] => if high.isSome then none else some read.reverse
  | [_] => none
  | first :: second :: rest =>
    let code := unit isBig [first, second]
    match high with
    | some lead =>
      if 0xDC00 ≤ code && code < 0xE000 then
        let c := Char.ofNat (0x10000 + (lead - 0xD800) * 1024 + (code - 0xDC00))
        decode16Onto isBig (c :: read) none rest
      else none
    | none =>
      if 0xD800 ≤ code && code < 0xDC00 then decode16Onto isBig read (some code) rest
      else match char? code with
        | some c => decode16Onto isBig (c :: read) none rest
        | none => none

/-- The text of units of four bytes, after some characters, which stand in reverse. -/
def decode32Onto (isBig : Bool) (read : List Char) : List UInt8 → Option (List Char)
  | [] => some read.reverse
  | a :: b :: c :: d :: rest =>
    match char? (unit isBig [a, b, c, d]) with
    | some c => decode32Onto isBig (c :: read) rest
    | none => none
  | _ => none

/-- The text of some bytes, if they are well formed. -/
def decode? : Encoding → List UInt8 → Option (List Char)
  | utf8, bytes => Utf8.decode? bytes
  | utf16 isBig, bytes => decode16Onto isBig [] none bytes
  | utf32 isBig, bytes => decode32Onto isBig [] bytes
  | latin, bytes => some (bytes.map fun byte => Char.ofNat byte.toNat)
  | page upper, bytes => CodePage.decode? upper bytes
  | shiftedKanji, bytes => Kanji.decodeShiftedOnto [] bytes
  | extendedKanji, bytes => Kanji.decodeExtendedOnto [] bytes

/-- The encoding that the first bytes of a document tell, and how many of them are no part of it. -/
def ofBeginning? : List UInt8 → Option (Encoding × Nat)
  | 0xEF :: 0xBB :: 0xBF :: _ => some (.utf8, 3)
  | 0x00 :: 0x00 :: 0x00 :: 0x3C :: _ => some (.utf32 true, 0)
  | 0x3C :: 0x00 :: 0x00 :: 0x00 :: _ => some (.utf32 false, 0)
  | 0x3C :: 0x00 :: 0x3F :: 0x00 :: _ => some (.utf16 false, 0)
  | 0x00 :: 0x3C :: 0x00 :: 0x3F :: _ => some (.utf16 true, 0)
  | 0xFE :: 0xFF :: _ => some (.utf16 true, 2)
  | 0xFF :: 0xFE :: _ => some (.utf16 false, 2)
  | _ => none

end Encoding

end Sparql.Text
