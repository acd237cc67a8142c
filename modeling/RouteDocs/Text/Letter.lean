/-! # Sets of code points as runs -/

/-- A text, as its characters. -/
abbrev RouteDocs.Chars := List Char

namespace RouteDocs.Text

/-- The lengths in a table: `a` to `z` for 1 to 26, `A` to `Z` for 27 to 52, any other length in
digits, with a blank between two of these. -/
def lengths (table : String) : List Nat := after none table.toList
where
  after (digits? : Option Nat) : Chars -> List Nat
    | [] => digits?.toList
    | c :: rest =>
      if c.isDigit then after (some (10 * digits?.getD 0 + (c.toNat - '0'.toNat))) rest
      else digits?.toList ++ short c ++ after none rest
  short (c : Char) : List Nat := if c.isLower then [c.toNat - 'a'.toNat + 1]
    else if c.isUpper then [c.toNat - 'A'.toNat + 27] else []

def inRuns : List Nat -> Nat -> Bool
  | gap :: length :: rest, n =>
    if n < gap then false
    else if n < gap + length then true
    else inRuns rest (n - gap - length)
  | _, _ => false

def asciiEnd : Nat := 128

def classified (ascii : Char -> Bool) (runs : List Nat) (c : Char) : Bool :=
  if c.toNat < asciiEnd then ascii c else inRuns runs (c.toNat - asciiEnd)

def zeroDigits : List Nat := [
  48,1632,1776,1984,2406,2534,2662,2790,2918,3046,3174,3302,3430,3558,3664,3792,3872,4160,4240,
  6112,6160,6470,6608,6784,6800,6992,7088,7232,7248,42528,43216,43264,43472,43504,43600,44016,
  65296,66720,68912,69734,69872,69942,70096,70384,70736,70864,71248,71360,71472,71904,72016,72784,
  73040,73120,92768,92864,93008,120782,120792,120802,120812,120822,123200,123632,125264,130032]

variable (c : Char) (digits : Chars)

def digitValue? : Option Nat := if '0' <= c && c <= '9' then some (c.toNat - '0'.toNat)
  else if c.toNat < 128 then none
  else (zeroDigits.find? fun first => first <= c.toNat && c.toNat < first + 10).map (c.toNat - ·)

def isDigit : Bool := (digitValue? c).isSome
def numeral : Nat := digits.foldl (fun n c => 10 * n + (digitValue? c).getD 0) 0
def digitLimit : Nat := 4300

inductive DigitOverflow where
  | read (count : Nat)
  | written
deriving DecidableEq

def DigitOverflow.message (overflow : DigitOverflow) : String :=
  let found := match overflow with
    | .read count => s!": value has {count} digits"
    | .written => ""
  s!"Exceeds the limit ({digitLimit} digits) for integer string conversion{found}; " ++
    "use sys.set_int_max_str_digits() to increase the limit"

def readNumeral : Except DigitOverflow Nat :=
  if digits.length <= digitLimit then .ok (numeral digits) else .error (.read digits.length)

def writeInteger (n : Int) : Except DigitOverflow String :=
  if n.natAbs < Nat.pow 10 digitLimit then .ok (toString n) else .error .written

def letterRuns : List Nat := lengths <|
  "PajadaewaEa458dlnegaaa129eabbdaafaacaaata83a139h166aLbafO71AddSQIba99aaobgbjcbapaaDC89kaxGibd" ++
  "aevdaiacawygkexafqP58 54caragjopdhbbbvagaacdcapambacnbjahfdbbvagabababEdaascpiacavagabaecarao" ++
  "bwakhbbbvagabaecaDbacoaqaafccadcbaaabcbccclvaZhacawapcazcbabbDadhacawajaecaEbabobqiacaObapaec" ++
  "hcxfercxaiaabg58Vablg58baaaeaxaaajabiabeaaudFa63haJAe115QtapfddcacbgcdmlaqLaaeabQa333adbgaaad" ++
  "bOadbGadbgaaadboa57adb67Kpp86bfc620bqaze75fhgrmsnrnmacoZIada67 89gebHaae70jEWDbekRdz54wi53 82" ++
  "a93Uqh54DmbjRzJOcjJbigQbcOdafabcae192 64 278bfbLbfbhaaaaaaaEb53agaaccagcdbfdmecag116amapm101a" ++
  "dabjaacefaaaaaadakbdeedaZb2683 229fdcblLaaeab56gapwigagagagagagagag80a469bPeebd86fca90adeQa94" ++
  "qFVp512 6592 64 22157 67Tb269cpjbtUpEb70Wib103b64ebaaaexpacadawCZnX62fcaabkBjwyCgUBapeajjeaOw" ++
  "cahtwcacXaacbbebaaaxcbkgclfbfbfigagaQanf115C11172lwdW8452 366b106Lgleeaajamaeaaababa108G363r6" ++
  "4b54Nl116ea135Jzfzk89cfbfbfbcIlazasabaobnH123 389CcWUFmtahfLjDbJdhV158rJdJdNhZlkaoagabakaoaga" ++
  "b67 311ivjhxfaPai69fbaaRabcabwjwiE65sabjvjz70 56fb64aodacaCPCcCIhaBA54jvjsmr110 73 55YmYmJ348" ++
  "Pfb78CjahvPrTuAwl53 57bbamSFyzJCabahIcalVnduaaaIray84gaaadaoajgULhbbbvagabaecarale158 53rdtcD" ++
  "Vtbaa184UOdJVta59Qma71AKg185R116 64Ehbabhabaxoaaa94hbMpaaaBajNgauakTsar73 263iaKqaWD112gabaLu" ++
  "ayfabaFna327s189a79 922 230 196 2636 97o1071 4049 583 8633 569gEq79qDrVpdEues688 64 128 75ea6" ++
  "6m64baaB6136h1238Pi8935dagaba291Scqdh396 2308 107emcigj5990 85a71abbabbbdalaaaga65adbhagaBada" ++
  "eaacga340byayaEayaEayaEayaEayah1844E481Sjgpa321DrR1268gadabaoa197 59 68ga1204daAabaabaajadaaa" ++
  "afadaaaaaacabaabaaaaaaaaaabaabdagadadaaajaqecaeaq4420 42720F4153g222b5762n7473 3103 542 1506 " ++
  "4939"

def otherDigitRuns : List Nat := lengths
  "Xbea4783i1640a1685acffj982ikiki89ajiaa630iaiai58029d1052i489i57509k"

def otherNumericRuns : List Nat := lengths <|
  "60c2357f376f120c133g217gqi433j1086k881c255j2390Ybe735kikik79jia640aiaia1385a777ayinc343d138jD" ++
  "haoFjMo325a125a934a802a4786abacaaa83aTagaaaNbDahaJa98a403a65aHaaaaa467aacfa116d790a533aga1408" ++
  "a131blcaa1005a77a1157a1843a1167a743a2567a933a2177ada124a2288aJaeaQa125a4079j320f20789agada57a" ++
  "DaaaOa1801Sl57qb341AJdCaha134e1154hygMi75evf160bbpbT68eZbDc75e104hxhOg330f361v158jPd112g143k3" ++
  "79t1349b430i871s851u1067 111 18156g798w25673t108y5454i929 59acad76Sao973b3828a98a125a62a2056a" ++
  "88ahaoa333araAa6262a1543a4482a10065a38434a"

def isLetter : Char -> Bool := classified Char.isAlpha letterRuns

def isAnyDigit : Bool := isDigit c || classified (fun _ => false) otherDigitRuns c

def isNumeric : Bool := isAnyDigit c || classified (fun _ => false) otherNumericRuns c
def unstableLetterRuns : List Nat := lengths "762a2744a127a8059a52782f406b116aaaaaaaaaaaaaaa287b"

def otherStartRuns : List Nat := lengths
  "5742c404b2193auaWIbd3710ayinc30379j23120 53 460aha134e8234 111"

def markRuns : List Nat := lengths <|
  "55a584 112wa251e265Saaababaa72kVupa101gbfbbadIaDA91k58iiaxdaiacaeQc60hPxaG54caragjbCc56aagbbb" ++
  "ciajbzabc56aaedbbccaDbcakc56aahacactbvfac56aagbbbcgcjbDa59eccadiaNe55aagacadgbkbCc56aagacadgb" ++
  "kbBd55bagacadiajbCc70adfaaahrb61aahlh98aajkf74bAaaaaadbWtabekaJia100twddcacbgcdmlaajd703cii92" ++
  "8dBcCbDb64FiaScaa153a118ldl158a60e57jaCbaVnapWeUqLilcDm56nVt152caudafabc198 64 575bsa123mdacl" ++
  "3070c141a96F554f105b30164adjFb80b272acadaweda83bXrzrmaLhymRdUnJa67nlahbScXaacbbebaaOeeb236hab" ++
  "20272a737pppcbxc239a94b605a226a149e1670cabedNcda165b573d387b153kWd122c53oOabbjdSkga61cJnpbRal" ++
  "cVnhdab92lfa160lud55bagbbbciajbbgce192rwa81t235gbiAb82q106m101o256o245fabbdaaab141gbgcaBjNgad" ++
  "haikTp405hah82van122fcaabagaa66eabae347d19449e59g1048aa55gd81akb19627b4705Tbw542ecfhhbgDd148c" ++
  "1979 55dXhanaveao1360gaqbgabae261g375a61d1504g109g792501 240"

def startsIdentifier : Bool :=
  c == '_' || isLetter c && !classified (fun _ => false) unstableLetterRuns c ||
    classified (fun _ => false) otherStartRuns c

def inIdentifier : Bool := startsIdentifier c || isDigit c || classified (fun _ => false) markRuns c

def isIdentifier : Chars -> Bool
  | [] => false
  | first :: rest => startsIdentifier first && rest.all inIdentifier

/-- Text in which every run of characters outside a class is one mark; `inRun`
says whether such a run has begun. -/
def collapseFrom (keep : Char -> Bool) (mark : Char) (inRun : Bool) : Chars -> Chars
  | [] => []
  | c :: rest =>
    if keep c then c :: collapseFrom keep mark false rest
    else if inRun then collapseFrom keep mark true rest
    else mark :: collapseFrom keep mark true rest

def collapse (keep : Char -> Bool) (mark : Char) (text : Chars) : Chars :=
  collapseFrom keep mark false text

def isAlphanumeric : Bool := isLetter c || isNumeric c

def isWord : Bool := c == '_' || isAlphanumeric c

def hexValue? (c : Char) : Option Nat := if '0' <= c && c <= '9' then some (c.toNat - '0'.toNat)
  else if 'a' <= c && c <= 'f' then some (c.toNat - 'a'.toNat + 10)
  else if 'A' <= c && c <= 'F' then some (c.toNat - 'A'.toNat + 10)
  else none
end RouteDocs.Text
