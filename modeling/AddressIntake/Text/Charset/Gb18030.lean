import AddressIntake.Text.Charset.Table.Gb18030

namespace AddressIntake.Text.Gb18030

/-- Runs of pairs for private use: the positions of the first and the last pair, and the code point
of the first one. -/
def privateRuns : List (Nat × Nat × Nat) := [
  (6080, 6175, 0xE4C6), (6270, 6365, 0xE526), (6376, 6381, 0xE766), (6433, 6433, 0xE76D),
  (6444, 6445, 0xE76E), (6458, 6459, 0xE770), (6460, 6554, 0xE586), (6650, 6745, 0xE5E6),
  (6829, 6839, 0xE772), (6840, 6935, 0xE646), (7022, 7029, 0xE77D), (7030, 7125, 0xE6A6),
  (7150, 7157, 0xE785), (7211, 7219, 0xE797), (7220, 7315, 0xE706), (7349, 7363, 0xE7A0),
  (7397, 7409, 0xE7AF), (7495, 7505, 0xE7BC), (7538, 7541, 0xE7C9), (7579, 7599, 0xE7CD),
  (7624, 7624, 0xE7E2), (7627, 7627, 0xE7E3), (7629, 7631, 0xE7E4), (7686, 7698, 0xE7F4),
  (7775, 7789, 0xE801), (7886, 7979, 0xE000), (8076, 8169, 0xE05E), (8266, 8359, 0xE0BC),
  (8456, 8549, 0xE11A), (8646, 8739, 0xE178), (8836, 8929, 0xE1D6), (16525, 16529, 0xE810),
  (22706, 22799, 0xE234), (22896, 22989, 0xE292), (23086, 23179, 0xE2F0), (23276, 23369, 0xE34E),
  (23466, 23559, 0xE3AC), (23656, 23749, 0xE40A), (23767, 23769, 0xE816), (23794, 23794, 0xE831),
  (23804, 23804, 0xE83B), (23830, 23830, 0xE855), (23846, 23939, 0xE468)]

/-- Runs of numbers of four bytes: the first number and its code point. A run goes on up to the next
one. All characters that no pair stands for have such numbers, in their order. -/
def numberRuns : List (Nat × Nat) := [
  (0, 0x80), (36, 0xA5), (38, 0xA9), (45, 0xB2), (50, 0xB8), (81, 0xD8), (89, 0xE2), (95, 0xEB),
  (96, 0xEE), (100, 0xF4), (103, 0xF8), (104, 0xFB), (105, 0xFD), (109, 0x102), (126, 0x114),
  (133, 0x11C), (148, 0x12C), (172, 0x145), (175, 0x149), (179, 0x14E), (208, 0x16C), (306, 0x1CF),
  (307, 0x1D1), (308, 0x1D3), (309, 0x1D5), (310, 0x1D7), (311, 0x1D9), (312, 0x1DB), (313, 0x1DD),
  (341, 0x1FA), (428, 0x252), (443, 0x262), (544, 0x2C8), (545, 0x2CC), (558, 0x2DA), (741, 0x3A2),
  (742, 0x3AA), (749, 0x3C2), (750, 0x3CA), (805, 0x402), (819, 0x450), (820, 0x452),
  (7922, 0x2011), (7924, 0x2017), (7925, 0x201A), (7927, 0x201E), (7934, 0x2027), (7943, 0x2031),
  (7944, 0x2034), (7945, 0x2036), (7950, 0x203C), (8062, 0x20AD), (8148, 0x2104), (8149, 0x2106),
  (8152, 0x210A), (8164, 0x2117), (8174, 0x2122), (8236, 0x216C), (8240, 0x217A), (8262, 0x2194),
  (8264, 0x219A), (8374, 0x2209), (8380, 0x2210), (8381, 0x2212), (8384, 0x2216), (8388, 0x221B),
  (8390, 0x2221), (8392, 0x2224), (8393, 0x2226), (8394, 0x222C), (8396, 0x222F), (8401, 0x2238),
  (8406, 0x223E), (8416, 0x2249), (8419, 0x224D), (8424, 0x2253), (8437, 0x2262), (8439, 0x2268),
  (8445, 0x2270), (8482, 0x2296), (8485, 0x229A), (8496, 0x22A6), (8521, 0x22C0), (8603, 0x2313),
  (8936, 0x246A), (8946, 0x249C), (9046, 0x254C), (9050, 0x2574), (9063, 0x2590), (9066, 0x2596),
  (9076, 0x25A2), (9092, 0x25B4), (9100, 0x25BE), (9108, 0x25C8), (9111, 0x25CC), (9113, 0x25D0),
  (9131, 0x25E6), (9162, 0x2607), (9164, 0x260A), (9218, 0x2641), (9219, 0x2643), (11329, 0x2E82),
  (11331, 0x2E85), (11334, 0x2E89), (11336, 0x2E8D), (11346, 0x2E98), (11361, 0x2EA8),
  (11363, 0x2EAB), (11366, 0x2EAF), (11370, 0x2EB4), (11372, 0x2EB8), (11375, 0x2EBC),
  (11389, 0x2ECB), (11682, 0x2FFC), (11686, 0x3004), (11687, 0x3018), (11692, 0x301F),
  (11694, 0x302A), (11714, 0x303F), (11716, 0x3094), (11723, 0x309F), (11725, 0x30F7),
  (11730, 0x30FF), (11736, 0x312A), (11982, 0x322A), (11989, 0x3232), (12102, 0x32A4),
  (12336, 0x3390), (12348, 0x339F), (12350, 0x33A2), (12384, 0x33C5), (12393, 0x33CF),
  (12395, 0x33D3), (12397, 0x33D6), (12510, 0x3448), (12553, 0x3474), (12851, 0x359F),
  (12962, 0x360F), (12973, 0x361B), (13738, 0x3919), (13823, 0x396F), (13919, 0x39D1),
  (13933, 0x39E0), (14080, 0x3A74), (14298, 0x3B4F), (14585, 0x3C6F), (14698, 0x3CE1),
  (15583, 0x4057), (15847, 0x4160), (16318, 0x4338), (16434, 0x43AD), (16438, 0x43B2),
  (16481, 0x43DE), (16729, 0x44D7), (17102, 0x464D), (17122, 0x4662), (17315, 0x4724),
  (17320, 0x472A), (17402, 0x477D), (17418, 0x478E), (17859, 0x4948), (17909, 0x497B),
  (17911, 0x497E), (17915, 0x4984), (17916, 0x4987), (17936, 0x499C), (17939, 0x49A0),
  (17961, 0x49B8), (18664, 0x4C78), (18703, 0x4CA4), (18814, 0x4D1A), (18962, 0x4DAF),
  (19043, 0x9FA6), (33469, 0xE76C), (33470, 0xE7C8), (33471, 0xE7E7), (33484, 0xE815),
  (33485, 0xE819), (33490, 0xE81F), (33497, 0xE827), (33501, 0xE82D), (33505, 0xE833),
  (33513, 0xE83C), (33520, 0xE844), (33536, 0xE856), (33550, 0xE865), (37845, 0xF92D),
  (37921, 0xF97A), (37948, 0xF996), (38029, 0xF9E8), (38038, 0xF9F2), (38064, 0xFA10),
  (38065, 0xFA12), (38066, 0xFA15), (38069, 0xFA19), (38075, 0xFA22), (38076, 0xFA25),
  (38078, 0xFA2A), (39108, 0xFE32), (39109, 0xFE45), (39113, 0xFE53), (39114, 0xFE58),
  (39115, 0xFE67), (39116, 0xFE6C), (39265, 0xFF5F), (39394, 0xFFE6)]

/-- The character for private use at a position. -/
def privateChar? (position : Nat) : Option Char :=
  (privateRuns.find? fun (first, last, _) => first ≤ position && position ≤ last).map
    fun (first, _, start) => Char.ofNat (start + (position - first))

/-- Whether a byte is the second or the fourth one of a number. -/
def isDigit (b : UInt8) : Bool := 0x30 ≤ b && b ≤ 0x39

/-- Whether a byte is the first one of a pair, or the first or the third one of a number. -/
def isLead (b : UInt8) : Bool := 0x81 ≤ b && b ≤ 0xFE

/-- The character of a pair of bytes. -/
def pair? (first second : UInt8) : Option Char :=
  if 0x40 ≤ second && second ≤ 0xFE && second != 0x7F then
    let column := second.toNat - if second < 0x7F then 0x40 else 0x41
    let position := (first.toNat - 0x81) * 190 + column
    (CharTable.gb18030.char? position).or (privateChar? position)
  else none

/-- The character of a number. The numbers up to 39419 are for characters of the first plane, and
those from 189000 on for the other planes. -/
def number? (n : Nat) : Option Char :=
  if n == 7457 then some '\uE7C7'
  else if n ≤ 39419 then
    (numberRuns.reverse.find? (·.1 ≤ n)).map fun (first, start) => Char.ofNat (start + (n - first))
  else if 189000 ≤ n && n ≤ 1237575 then some (Char.ofNat (0x10000 + (n - 189000)))
  else none

/-- The number of four bytes. -/
def number (first second third fourth : UInt8) : Nat :=
  (((first.toNat - 0x81) * 10 + (second.toNat - 0x30)) * 126 + (third.toNat - 0x81)) * 10 +
    (fourth.toNat - 0x30)

/-- The text of bytes in GB 18030, which includes GBK: characters of one, two or four bytes. Bytes
without a meaning are one unreadable character. Those after a first byte are read again if a number
breaks off, and so is an ASCII character after it. -/
def decode : List UInt8 → List Char
  | [] => []
  | first :: rest =>
    if first < 0x80 then Char.ofNat first.toNat :: decode rest
    else if first == 0x80 then '€' :: decode rest
    else if !isLead first then '\uFFFD' :: decode rest
    else
      match rest with
      | [] => ['\uFFFD']
      | second :: afterSecond =>
        if isDigit second then
          match afterSecond with
          | [] => ['\uFFFD']
          | third :: afterThird =>
            if isLead third then
              match afterThird with
              | [] => ['\uFFFD']
              | fourth :: afterFourth =>
                if isDigit fourth then
                  (number? (number first second third fourth)).getD '\uFFFD' :: decode afterFourth
                else '\uFFFD' :: decode (second :: third :: fourth :: afterFourth)
            else '\uFFFD' :: decode (second :: third :: afterThird)
        else
          match pair? first second with
          | some c => c :: decode afterSecond
          | none =>
            '\uFFFD' :: if second < 0x80 then decode (second :: afterSecond) else decode afterSecond

end AddressIntake.Text.Gb18030
