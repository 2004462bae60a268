namespace AddressIntake.Text.SingleByte

/-- The characters of the bytes from 0x80 on in code page 866. Here and in the other tables a space
stands where a byte has no character of its own. -/
def cp866 : String :=
  "АБВГДЕЖЗИЙКЛМНОПРСТУФХЦЧШЩЪЫЬЭЮЯабвгдежзийклмноп░▒▓│┤╡╢╖╕╣║╗╝╜╛┐" ++
    "└┴┬├─┼╞╟╚╔╩╦╠═╬╧╨╤╥╙╘╒╓╫╪┘┌█▄▌▐▀рстуфхцчшщъыьэюяЁёЄєЇїЎў°∙·√№¤■" ++
    "\u00A0"

/-- The characters of the bytes from 0xA0 on in ISO 8859-2. -/
def latin2 : String :=
  "\u00A0Ą˘Ł¤ĽŚ§¨ŠŞŤŹ\u00ADŽŻ°ą˛ł´ľśˇ¸šşťź˝žżŔÁÂĂÄĹĆÇČÉĘËĚÍÎĎĐŃŇÓÔŐ" ++
    "Ö×ŘŮÚŰÜÝŢßŕáâăäĺćçčéęëěíîďđńňóôőö÷řůúűüýţ˙"

/-- The characters of the bytes from 0xA0 on in ISO 8859-3. -/
def latin3 : String :=
  "\u00A0Ħ˘£¤ Ĥ§¨İŞĞĴ\u00AD Ż°ħ²³´µĥ·¸ışğĵ½ żÀÁÂ ÄĊĈÇÈÉÊËÌÍÎÏ ÑÒÓÔĠ" ++
    "Ö×ĜÙÚÛÜŬŜßàáâ äċĉçèéêëìíîï ñòóôġö÷ĝùúûüŭŝ˙"

/-- The characters of the bytes from 0xA0 on in ISO 8859-4. -/
def latin4 : String :=
  "\u00A0ĄĸŖ¤ĨĻ§¨ŠĒĢŦ\u00ADŽ¯°ą˛ŗ´ĩļˇ¸šēģŧŊžŋĀÁÂÃÄÅÆĮČÉĘËĖÍÎĪĐŅŌĶÔÕ" ++
    "Ö×ØŲÚÛÜŨŪßāáâãäåæįčéęëėíîīđņōķôõö÷øųúûüũū˙"

/-- The characters of the bytes from 0xA0 on in ISO 8859-5. -/
def isoCyrillic : String :=
  "\u00A0ЁЂЃЄЅІЇЈЉЊЋЌ\u00ADЎЏАБВГДЕЖЗИЙКЛМНОПРСТУФХЦЧШЩЪЫЬЭЮЯабвгде" ++
    "жзийклмнопрстуфхцчшщъыьэюя№ёђѓєѕіїјљњћќ§ўџ"

/-- The characters of the bytes from 0xA0 on in ISO 8859-6. -/
def isoArabic : String :=
  "\u00A0   ¤       ،\u00AD             ؛   ؟ ءآأؤإئابةتثجحخدذرزسشص" ++
    "ضطظعغ     ـفقكلمنهوىي\u064B\u064C\u064D\u064E\u064F\u0650\u0651" ++
    "\u0652             "

/-- The characters of the bytes from 0xA0 on in ISO 8859-7. -/
def isoGreek : String :=
  "\u00A0‘’£€₯¦§¨©ͺ«¬\u00AD ―°±²³΄΅Ά·ΈΉΊ»Ό½ΎΏΐΑΒΓΔΕΖΗΘΙΚΛΜΝΞΟΠΡ ΣΤΥ" ++
    "ΦΧΨΩΪΫάέήίΰαβγδεζηθικλμνξοπρςστυφχψωϊϋόύώ "

/-- The characters of the bytes from 0xA0 on in ISO 8859-8. -/
def isoHebrew : String :=
  "\u00A0 ¢£¤¥¦§¨©×«¬\u00AD®¯°±²³´µ¶·¸¹÷»¼½¾                       " ++
    "         ‗אבגדהוזחטיךכלםמןנסעףפץצקרשת  \u200E\u200F "

/-- The characters of the bytes from 0xA0 on in ISO 8859-10. -/
def latin6 : String :=
  "\u00A0ĄĒĢĪĨĶ§ĻĐŠŦŽ\u00ADŪŊ°ąēģīĩķ·ļđšŧž―ūŋĀÁÂÃÄÅÆĮČÉĘËĖÍÎÏÐŅŌÓÔÕ" ++
    "ÖŨØŲÚÛÜÝÞßāáâãäåæįčéęëėíîïðņōóôõöũøųúûüýþĸ"

/-- The characters of the bytes from 0xA0 on in ISO 8859-13. -/
def latin7 : String :=
  "\u00A0”¢£¤„¦§Ø©Ŗ«¬\u00AD®Æ°±²³“µ¶·ø¹ŗ»¼½¾æĄĮĀĆÄÅĘĒČÉŹĖĢĶĪĻŠŃŅÓŌÕ" ++
    "Ö×ŲŁŚŪÜŻŽßąįāćäåęēčéźėģķīļšńņóōõö÷ųłśūüżž’"

/-- The characters of the bytes from 0xA0 on in ISO 8859-14. -/
def latin8 : String :=
  "\u00A0Ḃḃ£ĊċḊ§Ẁ©ẂḋỲ\u00AD®ŸḞḟĠġṀṁ¶ṖẁṗẃṠỳẄẅṡÀÁÂÃÄÅÆÇÈÉÊËÌÍÎÏŴÑÒÓÔÕ" ++
    "ÖṪØÙÚÛÜÝŶßàáâãäåæçèéêëìíîïŵñòóôõöṫøùúûüýŷÿ"

/-- The characters of the bytes from 0xA0 on in ISO 8859-15. -/
def latin9 : String :=
  "\u00A0¡¢£€¥Š§š©ª«¬\u00AD®¯°±²³Žµ¶·ž¹º»ŒœŸ¿ÀÁÂÃÄÅÆÇÈÉÊËÌÍÎÏÐÑÒÓÔÕ" ++
    "Ö×ØÙÚÛÜÝÞßàáâãäåæçèéêëìíîïðñòóôõö÷øùúûüýþÿ"

/-- The characters of the bytes from 0xA0 on in ISO 8859-16. -/
def latin10 : String :=
  "\u00A0ĄąŁ€„Š§š©Ș«Ź\u00ADźŻ°±ČłŽ”¶·žčș»ŒœŸżÀÁÂĂÄĆÆÇÈÉÊËÌÍÎÏĐŃÒÓÔŐ" ++
    "ÖŚŰÙÚÛÜĘȚßàáâăäćæçèéêëìíîïđńòóôőöśűùúûüęțÿ"

/-- The characters of the bytes from 0x80 on in KOI8-R. -/
def koi8r : String :=
  "─│┌┐└┘├┤┬┴┼▀▄█▌▐░▒▓⌠■∙√≈≤≥\u00A0⌡°²·÷═║╒ё╓╔╕╖╗╘╙╚╛╜╝╞╟╠╡Ё╢╣╤╥╦╧╨" ++
    "╩╪╫╬©юабцдефгхийклмнопярстужвьызшэщчъЮАБЦДЕФГХИЙКЛМНОПЯРСТУЖВЬЫЗ" ++
    "ШЭЩЧЪ"

/-- The characters of the bytes from 0x80 on in KOI8-U. -/
def koi8u : String :=
  "─│┌┐└┘├┤┬┴┼▀▄█▌▐░▒▓⌠■∙√≈≤≥\u00A0⌡°²·÷═║╒ёє╔ії╗╘╙╚╛ґў╞╟╠╡ЁЄ╣ІЇ╦╧╨" ++
    "╩╪ҐЎ©юабцдефгхийклмнопярстужвьызшэщчъЮАБЦДЕФГХИЙКЛМНОПЯРСТУЖВЬЫЗ" ++
    "ШЭЩЧЪ"

/-- The characters of the bytes from 0x80 on in Mac OS Roman. -/
def macRoman : String :=
  "ÄÅÇÉÑÖÜáàâäãåçéèêëíìîïñóòôöõúùûü†°¢£§•¶ß®©™´¨≠ÆØ∞±≤≥¥µ∂∑∏π∫ªºΩæø" ++
    "¿¡¬√ƒ≈∆«»…\u00A0ÀÃÕŒœ–—“”‘’÷◊ÿŸ⁄€‹›ﬁﬂ‡·‚„‰ÂÊÁËÈÍÎÏÌÓÔ\uF8FFÒÚÛÙı" ++
    "ˆ˜¯˘˙˚¸˝˛ˇ"

/-- The characters of the bytes from 0x80 on in Mac OS Cyrillic. -/
def macCyrillic : String :=
  "АБВГДЕЖЗИЙКЛМНОПРСТУФХЦЧШЩЪЫЬЭЮЯ†°Ґ£§•¶І®©™Ђђ≠Ѓѓ∞±≤≥іµґЈЄєЇїЉљЊњ" ++
    "јЅ¬√ƒ≈∆«»…\u00A0ЋћЌќѕ–—“”‘’÷„ЎўЏџ№Ёёяабвгдежзийклмнопрстуфхцчшщъ" ++
    "ыьэю€"

/-- The characters of the bytes from 0x80 on in Windows-874. -/
def windows874 : String :=
  "€    …           ‘’“”•–—        \u00A0กขฃคฅฆงจฉชซฌญฎฏฐฑฒณดตถทธนบ" ++
    "ปผฝพฟภมยรฤลฦวศษสหฬอฮฯะ\u0E31าำ\u0E34\u0E35\u0E36\u0E37\u0E38" ++
    "\u0E39\u0E3A    ฿เแโใไๅๆ\u0E47\u0E48\u0E49\u0E4A\u0E4B\u0E4C" ++
    "\u0E4D\u0E4E๏๐๑๒๓๔๕๖๗๘๙๚๛    "

/-- The characters of the bytes from 0x80 on in Windows-1250. -/
def windows1250 : String :=
  "€ ‚ „…†‡ ‰Š‹ŚŤŽŹ ‘’“”•–— ™š›śťžź\u00A0ˇ˘Ł¤Ą¦§¨©Ş«¬\u00AD®Ż°±˛ł´µ" ++
    "¶·¸ąş»Ľ˝ľżŔÁÂĂÄĹĆÇČÉĘËĚÍÎĎĐŃŇÓÔŐÖ×ŘŮÚŰÜÝŢßŕáâăäĺćçčéęëěíîďđńňóôő" ++
    "ö÷řůúűüýţ˙"

/-- The characters of the bytes from 0x80 on in Windows-1251. -/
def windows1251 : String :=
  "ЂЃ‚ѓ„…†‡€‰Љ‹ЊЌЋЏђ‘’“”•–— ™љ›њќћџ\u00A0ЎўЈ¤Ґ¦§Ё©Є«¬\u00AD®Ї°±Ііґµ" ++
    "¶·ё№є»јЅѕїАБВГДЕЖЗИЙКЛМНОПРСТУФХЦЧШЩЪЫЬЭЮЯабвгдежзийклмнопрстуфх" ++
    "цчшщъыьэюя"

/-- The characters of the bytes from 0x80 on in Windows-1253. -/
def windows1253 : String :=
  "€ ‚ƒ„…†‡ ‰ ‹     ‘’“”•–— ™ ›    \u00A0΅Ά£¤¥¦§¨© «¬\u00AD®―°±²³΄µ" ++
    "¶·ΈΉΊ»Ό½ΎΏΐΑΒΓΔΕΖΗΘΙΚΛΜΝΞΟΠΡ ΣΤΥΦΧΨΩΪΫάέήίΰαβγδεζηθικλμνξοπρςστυ" ++
    "φχψωϊϋόύώ "

/-- The characters of the bytes from 0x80 on in Windows-1254. -/
def windows1254 : String :=
  "€ ‚ƒ„…†‡ˆ‰Š‹Œ    ‘’“”•–—˜™š›œ  Ÿ\u00A0¡¢£¤¥¦§¨©ª«¬\u00AD®¯°±²³´µ" ++
    "¶·¸¹º»¼½¾¿ÀÁÂÃÄÅÆÇÈÉÊËÌÍÎÏĞÑÒÓÔÕÖ×ØÙÚÛÜİŞßàáâãäåæçèéêëìíîïğñòóôõ" ++
    "ö÷øùúûüışÿ"

/-- The characters of the bytes from 0x80 on in Windows-1255. -/
def windows1255 : String :=
  "€ ‚ƒ„…†‡ˆ‰ ‹     ‘’“”•–—˜™ ›    \u00A0¡¢£₪¥¦§¨©×«¬\u00AD®¯°±²³´µ" ++
    "¶·¸¹÷»¼½¾¿\u05B0\u05B1\u05B2\u05B3\u05B4\u05B5\u05B6\u05B7\u05B8" ++
    "\u05B9\u05BA\u05BB\u05BC\u05BD־\u05BF׀\u05C1\u05C2׃װױײ׳״       א" ++
    "בגדהוזחטיךכלםמןנסעףפץצקרשת  \u200E\u200F "

/-- The characters of the bytes from 0x80 on in Windows-1256. -/
def windows1256 : String :=
  "€پ‚ƒ„…†‡ˆ‰ٹ‹Œچژڈگ‘’“”•–—ک™ڑ›œ\u200C\u200Dں\u00A0،¢£¤¥¦§¨©ھ«¬" ++
    "\u00AD®¯°±²³´µ¶·¸¹؛»¼½¾؟ہءآأؤإئابةتثجحخدذرزسشصض×طظعغـفقكàلâمنهوç" ++
    "èéêëىيîï\u064B\u064C\u064D\u064Eô\u064F\u0650÷\u0651ù\u0652ûü" ++
    "\u200E\u200Fے"

/-- The characters of the bytes from 0x80 on in Windows-1257. -/
def windows1257 : String :=
  "€ ‚ „…†‡ ‰ ‹ ¨ˇ¸ ‘’“”•–— ™ › ¯˛ \u00A0 ¢£¤ ¦§Ø©Ŗ«¬\u00AD®Æ°±²³´µ" ++
    "¶·ø¹ŗ»¼½¾æĄĮĀĆÄÅĘĒČÉŹĖĢĶĪĻŠŃŅÓŌÕÖ×ŲŁŚŪÜŻŽßąįāćäåęēčéźėģķīļšńņóōõ" ++
    "ö÷ųłśūüżž˙"

/-- The characters of the bytes from 0x80 on in Windows-1258. -/
def windows1258 : String :=
  "€ ‚ƒ„…†‡ˆ‰ ‹Œ    ‘’“”•–—˜™ ›œ  Ÿ\u00A0¡¢£¤¥¦§¨©ª«¬\u00AD®¯°±²³´µ" ++
    "¶·¸¹º»¼½¾¿ÀÁÂĂÄÅÆÇÈÉÊË\u0300ÍÎÏĐÑ\u0309ÓÔƠÖ×ØÙÚÛÜƯ\u0303ßàáâăäåæ" ++
    "çèéêë\u0301íîïđñ\u0323óôơö÷øùúûüư₫ÿ"

end AddressIntake.Text.SingleByte
