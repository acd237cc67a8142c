import RouteDocs.Text.Letter

/-! # Surrogates -/

namespace RouteDocs.Text
def isSurrogate (code : Nat) : Bool := 0xD800 <= code && code < 0xE000

inductive Piece where
  | char (c : Char)
  | surrogate (unit : Nat)
deriving DecidableEq

def Piece.ofCode (code : Nat) : Piece :=
  if isSurrogate code then .surrogate code else .char (Char.ofNat code)

def Piece.is (kind : Char -> Bool) : Piece -> Bool
  | char c => kind c
  | surrogate _ => false

def hexDigits : (width : Nat) -> Nat -> Chars
  | 0, _ => []
  | width + 1, n => hexDigits width (n / 16) ++ [Nat.digitChar (n % 16)]

def Piece.escaped : Piece -> Chars
  | char c => [c]
  | surrogate unit => '\\' :: 'u' :: hexDigits 4 unit

def Piece.replaced : Piece -> Chars
  | char c => [c]
  | surrogate _ => [Char.ofNat 0xFFFD]

def pieces (text : Chars) : List Piece := text.map .char

def ofPieces? : List Piece -> Option Chars
  | [] => some []
  | .char c :: rest => (ofPieces? rest).map (c :: ·)
  | .surrogate _ :: _ => none

def escapedText (pieces : List Piece) : String := String.ofList (pieces.flatMap Piece.escaped)

def unprintableRuns : List Nat := lengths <|
  "0Gla714bfdgaaata397aLbXbca55hAdfqva192aVb59b101n59bWboaBbaakeEi74a161ahbbbvagaacdbibbbdhadbae" ++
  "bybcafdbbvagabababbaaedbbccagdaagqjcaiacavagabaebjacacbaodblggacahbbbvagabaebibbbcgcdbaebrjba" ++
  "fccadcbaaabcbcccldeccadbafanuemacawapbiacadgbacbabdbjgvacawajaebiacadgbfbadbjabmmacaYacafdpbz" ++
  "acarcxaiaabgcadfaaahfjbcl58dCKbaaaeaxaaawbeaaafbjbdF72aJdMaJaoamK198aaeab377adbgaaadbOadbGadb" ++
  "gaaadboa57adb67bFczf86bfb640aBc89gvixitlmacabl94bjfjfnakf89gQe70jEaldldacPbekRdzfkc62b65aCbkf" ++
  "jfnbEW77cUa116h60coc60gQbkhQe534bfbLbfbhaaaaaaaEb53aoanbfasbcaiqxhUqbbAamcGoGo140d663yku1812b" ++
  "Fa349eSaaeab56gbnxigagagagagagagaga126Hza89l214zle63a86b103eQa94a84lUa29293c55i348t184h203eba" ++
  "aaex59cjf56h70hlf116kDc78akdGa55inbjb103xBjfbfbfigaga60d126bjf11172lwdWd2048 6400 366b106Lgle" ++
  "ezaeaaababa125p445b54gaFPfYasaddea135d190cfbfbfbccgagmbblazasabaobnH123ecdSc88amcaUT130CcWoBd" ++
  "JiDeQeDaKdnP158bjfJdJdNhZklaoagabakaoagab67 311ivjhxfaPai69fbaaRabcabwa72hiVsabeGcAea64 56dtb" ++
  "XabehacaCbcdjgig64FMdli54cCbAezgdlg80 73 55YmYgThj294EaPacbb78NhPvzLBtwi78dJi62aemygjf53arhMi" ++
  "96atkraR65gaaadaoakf59ejfdahbbbvagabaeajbbbcbafaegbgce139 92aeD72hj166 54bLH69kjfms58fj54Abod" ++
  "w185 60 100 83lhbabhabaDabblij70hbTbkA72h83m73 263iaSanjCcFbvan73gabaRcaabaihjffabaKabafgj310" ++
  "y183aoXm923 102 111aek196 2636 99m1071 4049 583 8633 569gEajd81ajfDbfj70jjagaues688 91 101 75" ++
  "d57gq64ekbn6136h1238Pi8935dagaba291Scqdh396 2308 107emcigjbd4704Tbwi116 60 246jMb74h112u70 15" ++
  "4tl87iy135 85a71abbabbbdalaaaga65adbhagaBadaeaacga340b292b702oeao1104E225gaqbgabae213Scnbjdb3" ++
  "20Eq58ea1248gadabaoa197bpO76djdb785 68 76 61 194daAabaabaajadaaaafadaaaaaacabaabaaaaaaaaaabaa" ++
  "bdagadadaaajaqecaeaqZb270Rd100loboaoaKj174 56CmRdigbnf154 984epcmc116l89gldaold56hjfNhDbb78 3" ++
  "40lnbececgiCckefjjfhhgi147a55Kj1030 42720F4153g222b5762n7473 3103 542 1506 4939 716213 240 19" ++
  "6112"

def isPrintable (c : Char) : Bool :=
  !classified (fun c => c.toNat < 32 || c.toNat == 127) unprintableRuns c

def numbered (c : Char) : Chars :=
  let n := c.toNat
  if n < 0x100 then '\\' :: 'x' :: hexDigits 2 n
  else if n < 0x10000 then '\\' :: 'u' :: hexDigits 4 n
  else '\\' :: 'U' :: hexDigits 8 n

def quotedChar (quote c : Char) : Chars := if c = quote || c = '\\' then ['\\', c]
  else if c = '\n' then ['\\', 'n']
  else if c = '\r' then ['\\', 'r']
  else if c = '\t' then ['\\', 't']
  else if isPrintable c then [c]
  else numbered c

def quoteFor (text : Chars) : Char :=
  if text.contains '\'' && !text.contains '"' then '"' else '\''

def quotedChars (text : Chars) : Chars :=
  quoteFor text :: (text.flatMap (quotedChar (quoteFor text)) ++ [quoteFor text])

def quoted (text : String) : String := String.ofList (quotedChars text.toList)

def quotedPiece (quote : Char) : Piece -> Chars
  | .char c => quotedChar quote c
  | .surrogate unit => (Piece.surrogate unit).escaped

def quotedPieces (pieces : List Piece) : String :=
  let quote := quoteFor (pieces.flatMap Piece.escaped)
  String.ofList (quote :: (pieces.flatMap (quotedPiece quote) ++ [quote]))
end RouteDocs.Text
