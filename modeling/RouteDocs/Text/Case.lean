import RouteDocs.Text.Letter

/-! # Upper and lower case -/

namespace RouteDocs.Text

/-- Every `step`-th code point from `first` to `last`, moved by `shift`. -/
structure CaseRun where
  first : Nat
  last : Nat
  step : Nat
  shift : Int

structure CaseTable where
  single : List CaseRun
  several : List (Nat × List Nat)

def shifted : List CaseRun -> Nat -> Option Nat
  | [], _ => none
  | run :: rest, n =>
    if run.first <= n && n <= run.last && (n - run.first) % run.step == 0 then
      some (n + run.shift).toNat
    else shifted rest n

variable (text : Chars) (c : Char) (table : CaseTable)

def CaseTable.apply (c : Char) : Chars :=
  match table.several.lookup c.toNat with
  | some codes => codes.map Char.ofNat
  | none => [((shifted table.single c.toNat).map Char.ofNat).getD c]

def paired (pairs : String) : List CaseRun := runs pairs.toList
where
  runs : Chars -> List CaseRun
    | c :: form :: rest => ⟨c.toNat, c.toNat, 1, form.toNat - c.toNat⟩ :: runs rest
    | _ => []

def moved (runs : List (Nat × Nat × Int)) : List CaseRun :=
  runs.map fun (first, last, shift) => ⟨first, last, 1, shift⟩

def alternating (runs : List (Nat × Nat)) : List CaseRun :=
  runs.map fun (first, last) => ⟨first, last, 2, -1⟩

def spelled (words : String) : List (Nat × List Nat) := (words.splitOn " ").filterMap fun word =>
    match word.toList.map Char.toNat with
    | [] => none
    | c :: form => some (c, form)

def iotaRow (first letter : Nat) : List (Nat × List Nat) :=
  (List.range 16).map fun place => (first + place, [letter + place % 8, 921])

def upperTable : CaseTable where
  single := moved [
    (224,246,-32),(248,254,-32),(945,961,-32),(963,971,-32),(1072,1103,-32),(1104,1119,-80),
    (1377,1414,-48),(4304,4346,3008),(4349,4351,3008),(5112,5117,-8),(7936,7943,8),(7952,7957,8),
    (7968,7975,8),(7984,7991,8),(8000,8005,8),(8032,8039,8),(8050,8053,86),(8560,8575,-16),
    (9424,9449,-26),(11312,11359,-48),(11520,11557,-7264),(43888,43967,-38864),(65345,65370,-32),
    (66600,66639,-40),(66776,66811,-40),(66967,66977,-39),(66979,66993,-39),(66995,67001,-39),
    (68800,68850,-64),(71872,71903,-32),(93792,93823,-32),(125218,125251,-34)] ++ alternating [
    (257,303),(307,311),(314,328),(331,375),(378,382),(417,421),(462,476),(479,495),(505,543),
    (547,563),(583,591),(985,1007),(1121,1153),(1163,1215),(1218,1230),(1233,1327),(7681,7829),
    (7841,7935),(11368,11372),(11393,11491),(42561,42605),(42625,42651),(42787,42799),(42803,42863),
    (42879,42887),(42903,42921),(42933,42947)] ++ paired (
    "µΜÿŸıIſSƀɃƃƂƅƄƈƇƌƋƒƑƕǶƙƘƚȽƞȠƨƧƭƬưƯƴƳƶƵƹƸƽƼƿǷǅǄǆǄǈǇǉǇǋǊǌǊǝƎǲǱǳǱǵǴȼȻȿⱾɀⱿɂɁɐⱯɑⱭɒⱰɓƁɔƆɖƉɗƊəƏɛƐ" ++
    "ɜꞫɠƓɡꞬɣƔɥꞍɦꞪɨƗɩƖɪꞮɫⱢɬꞭɯƜɱⱮɲƝɵƟɽⱤʀƦʂꟅʃƩʇꞱʈƮʉɄʊƱʋƲʌɅʒƷʝꞲʞꞰͅΙͱͰͳͲͷͶͻϽͼϾͽϿάΆέΈήΉίΊςΣόΌύΎώΏϐΒϑΘ" ++
    "ϕΦϖΠϗϏϰΚϱΡϲϹϳͿϵΕϸϷϻϺӏӀᲀВᲁДᲂОᲃСᲄТᲅТᲆЪᲇѢᲈꙊᵹꝽᵽⱣᶎꟆẛṠὑὙὓὛὕὝὗὟὰᾺάΆὶῚίΊὸῸόΌὺῪύΎὼῺώΏᾰᾸᾱᾹιΙῐῘῑῙῠῨῡῩ" ++
    "ῥῬⅎℲↄↃⱡⱠⱥȺⱦȾⱳⱲⱶⱵⳬⳫⳮⳭⳳⳲⴧჇⴭჍꝺꝹꝼꝻꞌꞋꞑꞐꞓꞒꞔꟄꟈꟇꟊꟉꟑꟐꟗꟖꟙꟘꟶꟵꭓꞳ𐖻𐖔𐖼𐖕")
  several := iotaRow 8064 7944 ++ iotaRow 8080 7976 ++ iotaRow 8096 8040 ++ spelled (
    "ßSS ŉʼN ǰJ̌ ΐΪ́ ΰΫ́ ևԵՒ ẖH̱ ẗT̈ ẘW̊ ẙY̊ ẚAʾ ὐΥ̓ ὒΥ̓̀ ὔΥ̓́ ὖΥ̓͂ ᾲᾺΙ ᾳΑΙ ᾴΆΙ ᾶΑ͂ ᾷΑ͂Ι ᾼΑΙ" ++
     "ῂῊΙ ῃΗΙ ῄΉΙ ῆΗ͂ ῇΗ͂Ι ῌΗΙ ῒΪ̀ ΐΪ́ ῖΙ͂ ῗΪ͂ ῢΫ̀ ΰΫ́ ῤΡ̓ ῦΥ͂ ῧΫ͂ ῲῺΙ ῳΩΙ ῴΏΙ ῶΩ͂ ῷΩ͂Ι" ++
     "ῼΩΙ ﬀFF ﬁFI ﬂFL ﬃFFI ﬄFFL ﬅST ﬆST ﬓՄՆ ﬔՄԵ ﬕՄԻ ﬖՎՆ ﬗՄԽ")

def lowerTable : CaseTable where
  single := paired "ǄǆǅǆǇǉǈǉǊǌǋǌǱǳǲǳΙιΜμΣσϴθẞßᾼᾳῌῃῼῳΩωKkÅåꙊꙋ" ++ moved [
    (8072,8079,-8),(8088,8095,-8),(8104,8111,-8)]
  several := spelled "İi̇"

def unshifted : List CaseRun -> Nat -> Option Nat
  | [], _ => none
  | run :: rest, n =>
    let origin := (n - run.shift).toNat
    if shifted [run] origin = some n then some origin else unshifted rest n

def CaseTable.lists (c : Char) : Bool :=
  (shifted table.single c.toNat).isSome || (table.several.lookup c.toNat).isSome

def upperChar : Chars :=
  if c.toNat < asciiEnd then [c.toUpper] else upperTable.apply c

def lowerChar : Chars := if c.toNat < asciiEnd then [c.toLower]
  else if lowerTable.lists c then lowerTable.apply c
  else [((unshifted upperTable.single c.toNat).map Char.ofNat).getD c]

def upper : Chars := text.flatMap upperChar

/-! ## Letters of either case

A letter of a title is large at the beginning of a word only. Other letters are small if
they have a large form and large if they have a small one; the tables list those without. -/

def titleRuns : List Nat := lengths "325ababaLa7573hhhhhlaoaUa"

def otherSmallRuns : List Nat := lengths <|
  "Paoa125a84amanbnaca98arfAabaaabcbaaabaebaabbagabaabcfeaaahbzgbDe149a129a355aMa6007 121acapaW2" ++
  "20baa465amapm109acbcaAadadabbhd2855ababg102a31159b146b62iuafayaIaaaHc821Iagam23575abcaPai5231" ++
  "9zzgarzzzdaaagakzzzzzzzzzzzzzzzzzBByafzyafzyafzyafzyafaa1844jat"

def otherLargeRuns : List Nat := lengths <|
  "850c7469adaccbcbacefacacbbbaajbea111290zzzzzzaabbabbbdahzzzbadbhagAbadaeaacgAzzzzzzzzzzzDyGyG" ++
  "yGyGyGa6501zfzfz"

def isTitle : Char -> Bool := classified (fun _ => false) titleRuns

def isSmall : Bool := if c.toNat < asciiEnd then c.isLower
  else upperTable.lists c && !isTitle c || inRuns otherSmallRuns (c.toNat - asciiEnd)

def isLarge : Bool := if c.toNat < asciiEnd then c.isUpper
  else (lowerTable.lists c || (unshifted upperTable.single c.toNat).isSome) && !isTitle c ||
    inRuns otherLargeRuns (c.toNat - asciiEnd)

def hasCase : Bool := isSmall c || isLarge c || isTitle c

def caseIgnorableRuns : List Nat := lengths <|
  "Nadaaadabb503 192dbdaibaa251g207aeaWSaaababaaRakfjkaaIajupa101hajadGaaaDA91k58kdabaxxQcRagbfh" ++
  "O58 55aaadhdacgjbmaoa58addhatbzabb57adbdbbccaDbcakb57adeabdatbvfaa58abaadhagbkbDa61alaXaca55a" ++
  "acecadgbkbCa58abafaebtbBb57bddhatbCa72agcaa90abgki98abiiaaf74bAaaaaa55naeabekaJia102dafabbbyb" ++
  "dcpdmabbfaoa94a608c946cCbDbDb64baghabkcaeaSeYa65bHa118cdbiafc219bba58aagaaaabhfjbaMahEWdVaaea" ++
  "aeaNilbFdbbac56aabcaac58hbb64f82camagdafacbX63maH101 445aackcmcmcmblehbjababeWeajaamapmYG2955" ++
  "b113c125aoa96FUa469aJdceea93f93c28438a1250f270a98dajaaBd80bnH78awc103ccbhacadaybea151bzrmaLhy" ++
  "kTcVabdbbqaub66fbbbblahaIakaYaacbbebaaAanbebaa100eic121abada20272a147q573pcalpHaba169agafakaI" ++
  "aaaUaSb67auc513a226a149e1029faPai582cabedNcda165b573d387b153kWd123a54oOabbjcWdbbbadajaXcJeah6" ++
  "2albZijdba95cbaabfa160achub57bcaKgce195hbcaawa84faadbab238dfbabAb85hbaab106aaabfaa101cbdae259" ++
  "iab256baada144dbbdaFjNfbdhaifbcTmab406gafaa82vbgabab122fcaabagaa72bcaaa347b5435i14007e59gid10" ++
  "35a63q64bab16395dagab3230bad4700Tbw544cipbgDd148c1979 55dXhanaveao1360gaqbgabae261n368a61d150" ++
  "4g109h2735e789505aD96 128 240"

def isCaseIgnorable : Char -> Bool :=
  classified (fun c => c == '\'' || c == '.' || c == ':' || c == '^' || c.toNat == 96)
    caseIgnorableRuns

def isCased : Bool := hasCase c && !isCaseIgnorable c

def startsCased : Bool := match text.dropWhile isCaseIgnorable with
  | [] => false
  | c :: _ => isCased c

def lowerFrom (before : Chars) : Chars -> Chars
  | [] => []
  | c :: rest =>
    let small := if c.toNat == 931 then
        if startsCased before && !startsCased rest then [Char.ofNat 962] else [Char.ofNat 963]
      else lowerChar c
    small ++ lowerFrom (c :: before) rest

def lower : Chars := lowerFrom [] text

def titleTable : CaseTable where
  single := paired "ǄǅǅǅǆǅǇǈǈǈǉǈǊǋǋǋǌǋǱǲǲǲǳǲᾳᾼᾼᾼῃῌῌῌῳῼῼῼ" ++ moved [
    (4304,4346,0),(4349,4351,0),(8064,8071,8),(8072,8079,0),(8080,8087,8),(8088,8095,0),
    (8096,8103,8),(8104,8111,0)]
  several := spelled (
    "ßSs ևԵւ ᾲᾺͅ ᾴΆͅ ᾷᾼ͂ ῂῊͅ ῄΉͅ ῇῌ͂ ῲῺͅ ῴΏͅ ῷῼ͂ ﬀFf ﬁFi ﬂFl ﬃFfi ﬄFfl ﬅSt ﬆSt ﬓՄն ﬔՄե ﬕՄի" ++
     "ﬖՎն ﬗՄխ")

def foldTable : CaseTable where
  single := paired "µμſsͅιςσϐβϑθϕφϖπϰκϱρϵεᲀвᲁдᲂоᲃсᲄтᲅтᲆъᲇѣᲈꙋẛṡιι" ++ moved [
    (5024,5109,0),(5112,5117,-8),(43888,43967,-38864)]
  several := spelled "ẞss"

def titleChar : Chars :=
  if titleTable.lists c then titleTable.apply c else upperChar c

def foldChar : Chars := match upperTable.several.lookup c.toNat with
  | some codes => (codes.map Char.ofNat).flatMap lowerChar
  | none => if foldTable.lists c then foldTable.apply c else lowerChar c

def folded : Chars := text.flatMap foldChar

def lowerBetween (before : Chars) (c : Char) (rest : Chars) : Chars :=
  if c.toNat == 931 then
    if startsCased before && !startsCased rest then [Char.ofNat 962] else [Char.ofNat 963]
  else lowerChar c

def titleFrom (before : Chars) : Chars -> Chars
  | [] => []
  | c :: rest =>
    (if (before.head?.map hasCase).getD false then lowerBetween before c rest else titleChar c) ++
      titleFrom (c :: before) rest

def title : Chars := titleFrom [] text

def swapFrom (before : Chars) : Chars -> Chars
  | [] => []
  | c :: rest =>
    (if isLarge c then lowerBetween before c rest else if isSmall c then upperChar c
      else [c]) ++ swapFrom (c :: before) rest

def swapCase : Chars := swapFrom [] text

def capitalize : Chars -> Chars
  | [] => []
  | c :: rest => titleChar c ++ lowerFrom [c] rest

def isSmallText : Bool := !text.any (fun c => isLarge c || isTitle c) && text.any isSmall

def isLargeText : Bool := !text.any (fun c => isSmall c || isTitle c) && text.any isLarge

/-- Whether the rest of a text goes on as titles do. `isInWord` tells whether a character
with a case stands before it, and `isSome` whether there was one at all. -/
def titlesFrom (isInWord isSome : Bool) : Chars -> Bool
  | [] => isSome
  | c :: rest =>
    if isLarge c || isTitle c then !isInWord && titlesFrom true true rest
    else if isSmall c then isInWord && titlesFrom true true rest
    else titlesFrom false isSome rest

def isTitleText : Bool := titlesFrom false false text
end RouteDocs.Text
