import PageTelemetry.Unicode.Table

/-! The properties of code points that decide whether a label of a host name is well formed: marks,
joining types and directions. -/
namespace PageTelemetry.Unicode

def markText : String :=
  "lcM34 7nM7 7bM19 1M 1M2 1M2 1M 20Mb 1cMl gM 2tM7 2M6 2M2 1M4 zM uMr 2jMb 1mM9 9M oM4 1M9
1M3 1M5 17M3 1nM9 16Mo 1Mx 1iM3 1Mi 1M7 aM2 tM3 1kM 1M7 2M2 2M3 9M aM2 qM 2M3 1kM 1M5 4M2
2M3 3M uM2 3M bM3 1kM 1M8 1M3 1M3 kM2 mM6 1M3 1kM 1M7 2M2 2M3 7M3 aM2 uM 1nM5 3M3 1M4 9M
14M5 1jM 1M7 1M3 1M4 7M2 bM2 tM3 1kM 1M7 1M3 1M4 7M2 bM2 fM cM4 1jM2 1M7 1M3 1M4 9M aM2 tM3
1yM 4M6 1M 1M8 iM2 1pM 2M7 cM8 2qM 2M9 bM7 21M2 rM 1M 1M 4M2 1dMk 1M2 5Mb 1M10 9M 2sMk nM4
4M3 1M3 2M7 3M4 dMc 1M aM4 jjM3 qaM4 sM3 tM2 uM2 1sMw 9M 19M3 1M 39M2 yM 3aMc 4Mc 63M5 1lMa
1Mt 2M 1cM1a 2Mc kM5 1bMh 12M9 cM3 uMd 1kMe 1cMk 48M3 1Ml 4M 6M 2M3 5iM1s k0Mx 2daM3 3xM
2oMw feM6 2xM2 n9wM4 1Ma wM2 28M2 7kM 3M 4M nM5 4M 2bM2 1eMi qMi dM 12M8 pMd 18M4 1bMe 10M
1vMe cM 8M2 19M3 1eM 1M3 2M2 5M2 1M 15M5 5M2 6kM8 1M2 fn4M khMg gMg r1M 6aM 45M5 1aeM3 1M2
5M4 14M3 4M 4lM2 fxM4 1tM5 8tM2 25M6 1yMb 1dM4 3eM3 1hMf 15M 2M2 aM4 19Mb 7M 1pM3 10Me gM2
18M cM3 1cMe 8M4 1M2 2kMc 6M 2M 4dMc lM4 1jM2 1M7 2M2 2M3 9M aM2 2M7 3M5 1vM9 1M 2M 1M4 1M5
1M eM2 2aMi nM 29Mk 6jM7 2M9 rM2 2aMh 2yMd 2tMf 74Mf 6tM6 1M2 2M4 1M 1M2 3xM7 2M7 3M sMa
14M7 1M4 8M 9Mb 1aMg 5iM8 5jM8 1M8 2aMm 1Me 3eM6 3M 1M2 1M7 1M 1uM5 1M2 1M5 9nM4 9M2 1M
1cM7 3M5 nM 44lM 6Mf 8ugMi 1xcM5 1nM7 t4M 1M1j 7M4 29M bM2 f57M2 3mpM1a 2Mn f2M5 3M6 8M8
2M7 uM4 44M3 1izM1j 4M1e 8M eM mM5 1Mf 11sM7 1Mh 2M7 1M2 1M5 2sM 4gM7 afM 1pM4 e4M4 72M2
6rM 2M 7M2 5M d6M7 31M7 gzhxM6o"

/-- Joining types other than non-joining, by their letters. -/
def joiningText : String :=
  "4tT giT34 7nT7 7bT19 1T 1T2 1T2 1T 20Tb 1T 3D 1R4 D R D R D5 R4 Dd C D7 R D2 Tl eD2 T R3
1R3 Dg Ri D12 R D2 R9 D R D R D2 R2 1R T7 2T6 2T2 1T4 R2 aD3 2D fT R T D3 R5 D4 R D9 R D R
D R D2 R Tr 2R Db R3 Df R2 D4 R D R2 D3 R2 D6 12Tb pDx T9 6C 2T oT4 1T9 1T3 1T5 iR D5 R2 D
R Da R D R3 T3 4D 1D4 1R D R2 5Rj C3 D 2D5 R D 7T9 Da R3 1R D2 R2 D6 R Df 1To 1Tw 1jT 1T
4T8 4T 3T7 aT2 tT 1mT 4T4 8T kT2 qT 2T2 1lT 4T2 4T2 2T3 3T uT2 3T bT2 1lT 4T5 1T2 4T kT2
mT6 1T 1mT 2T 1T4 8T 7T2 bT2 uT 1pT cT 1eT 3T 1jT 1T3 5T3 1T4 7T2 bT2 tT 1mT 2T 6T 5T2 kT2
sT2 1lT2 4T4 8T kT2 tT 20T 7T3 1T 2iT 2T7 cT8 2qT 2T9 bT7 21T2 rT 1T 1T 1jTe 1T5 1T2 5Tb
1T10 9T 2uT4 1T6 1T2 2T2 pT2 4T3 gT4 dT 2T2 6T fT jjT3 qaT3 tT2 uT2 uT2 1sT2 1T7 8T 2Tb 9T
15D 2C T3 1T gD2h cT2 Dy T D 39T3 4T2 9T 6T3 63T2 2T 1mT 1T7 1T 1T 2T8 6Ta 2T 1cT1a 2Tc kT4
1cT 1T5 1T 5T 14T9 cT2 wT4 2T2 1T3 1kT 1T2 3T 1T3 1mT8 2T2 48T3 1Td 1T7 4T 6T 3T2 5iT1s ejT
1C T2 qT5 1dT5 5T6 2oTx 2daT3 3xT 2oTw feT4 2zT2 n9wT4 1Ta wT2 28T2 7kT 3T 4T pT2 5T jD1e L
29T2 qTi dT 12T8 pTb 1aT3 1cT 2T4 2T2 13T 1vT6 2T2 2T2 cT 8T 1bT 1fT 1T3 2T2 5T2 1T 16T2 8T
6mT 2T 4T fn4T khTg gTg 5rT 6xT3 e9T 6aT 45T5 1aeT3 1T2 5T4 14T3 4T 3kD5 R 1R 1R2 2L R5 D4
L D5 R D3 R 2R T2 4D4 R 40D R D R3 D3 R D2 R D R2 D R nR4 D2 9dL Dx R D T4 1tT5 8tT2 lR D2
1D2 1eT6 1cD3 R Dh 1Tb D3 R rD4 R2 Dc T4 16D 1D2 R3 1D R2 D2 R D2 1D R2 D 4R D L 1hT 1iTf
15T 2T2 aT3 1dT4 2T2 7T 1pT3 10T5 1T8 1qT cT2 1gT9 aT4 2T 2nT3 2T 1T2 6T 2T 4dT 3T8 lT2
1lT2 3T 11T7 3T5 1yT6 dT 1T 1T eT2 2dT8 2T3 1T nT 2cT6 1T 4T2 1T2 6mT4 6T2 1T2 rT2 2dT8 2T
1T2 2yT 1T 2T6 1T 2tT 1T 2T4 1T5 77T9 1T2 74T2 1T 4T 40T4 2T2 4T wTa 14T6 2T4 8T 9T6 2T3
1aTd 1T2 5iT 1T3 1T 5lT7 1T6 1T 2aTm 2T7 1T2 1T2 3eT6 3T 1T2 1T7 1T 20T2 3T 1T 9nT2 bT2
1gT5 5T 1T nT 445Th 6Tf 8ugTc 3T3 1xcT5 1nT7 t4T 1rT4 29T f5kT2 1T4 3mkT1a 2Tn f4T3 9Tg 2T7
uT4 44T3 1izT1j 4T1e 8T eT mT5 1Tf 11sT7 1Th 2T7 1T2 1T5 2sT 4gT7 afT 1pT4 e4T4 72T2 6rT 2T
7T2 5T d6T7 15D1w T8 gzatT uT2o 3kT6o"

/-- Directions other than left to right: `R` right to left, `A` Arabic letter, `N` Arabic number,
`E` European number, `S` its separator, `T` its terminator, `C` common separator, `M` nonspacing
mark, `B` boundary neutral, `O` other neutral, and `X` for the rest. -/
def directionText : String :=
  "B9 X5 Be X5 O2 T3 O5 S C S C2 Ea C O12 qO4 B xO T4 O9 1T2 4Oy vO chO2 7Oe 2Os 1Oh M34 5O
3kO 3wM7 74O5 T 1M19 R M R M2 R M2 R M 8R11 hO2 A T2 A C A O2 Mb A1c Ml Na T N2 A3 M A2t M7
1O M6 A2 M2 O M4 A2 Ea An M Au Mr 2A2h Mb A eR17 M9 R2 O4 R 2M Ro M4 R M9 R M3 R M5 2R15 M3
2R 1A1c 7M9 A16 M1l 1jM 1M 4M8 4M 3M7 aM2 tM 1mM 4M4 8M kM2 eT2 7T 2M5 1lM 4Mh uM2 3M bM2
1lM 4M8 4M kM2 dT 8M8 1mM 2M 1M4 8Ma bM2 uM 1pM cM 11O6 T O 5M 3M 1jM 1M3 5Mh bM2 kO7 2M
1mM fM2 kM2 sM2 1lM2 4M4 8M kM2 tM 20M 7M5 2iM 2M7 4T 7M8 2qM 2M9 bM7 21M2 rM 1M 1M O4 1fMe
1M5 1M2 5M1c 9M 2uM4 1M6 1M2 2M2 pM2 4M3 gM4 dM 2M2 6M fM jjM3 1cOa 2uO iiO2 39M3 tM2 uM2
uM2 1vM7 8M 2Mb 7T 1M iOr 3eM2 yM 3aM3 4M2 9M 6M3 4O6 48Oy nM2 2M 1mM 1M9 1M 2M8 6Md 1cM2c
1cM 1M5 1M 5M 14M9 cM2 wM4 2M2 1M3 1kM 1M2 3M 1M3 1mM8 2M2 48M3 1Md 1M7 4M 6M 3M2 5iM1s
ekB2 2Oo 8T3 2Of C Oq 1tTy eMx jO12 4T bOk 1oO3s S T O82 1xOq 1O41 pOh8 1O9f 74Oie 1O2x
6dO6 4M3 7O7 3jM 2oMw Oed 3Op 9M4 2O 6O 5O3 2hM2 5O 2iO 5gO10 5i4O1s h3kO1j 92O3 2nM4 O Ma
O2 uM2 28M2 eOy 2uO 3dM 3M 4M pM2 1O4 M bT2 1mO4 24M2 qMi dM 12M8 pMb 1aM3 1cM 2M4 2M2 13M
1vM6 2M2 2M2 cM 8M 1bM 1fM 1M3 2M2 5M2 1M 16M2 8M 37O2 3dM 2M 4M fn4M 43Ax a3Oi 1sA1r O1d
wMg lO2 18A i5O 1qO25 3Oh 2kM 6aM Er 3eM5 w5R7w 3O R69 Mf R12 2M8 R4l M2 4R23 3O7 Rcg A10
M4 8Na 6Rg pM5 Ry 5sNv 1R16 1M2 R5 gAn xM6 R14 8Am Mb A9 mRi M4 R35 aM 1iMf bOk aM 2M2 aM3
1dM4 2M2 7M 1pM3 10M5 1M8 1qM cM2 1gM9 aM4 2M 2nM3 2M 1M2 6M 2M 4dM 3M8 lM2 1lM2 3M 11Mf
1yM6 dM 1M 1M eM2 2dM8 2M3 1M nM 2cM6 1M 4M2 1M2 6mM4 6M2 1M2 rM2 2dM8 2M 1M2 vOd 1qM 1M
2M6 1M 2tM3 2M4 1M5 77M9 1M2 74M2 1M 4M 40M8 4M wM6 2M2 14M6 2M4 8M 9M6 2M3 1aMd 1M2 5iM
1M3 1M 5lMe 2cMm 2M7 1M2 1M2 3eMl 1M 20M2 3M 1M 9nM2 bM2 1gM5 5M 1M nM 3eO8 T4 Oh 40eM 6Mf
8ugMc 3M3 1xcM5 1nM7 t4M 1rM4 27O 1M f5kM2 3mpM1z f4M3 hM8 2M7 uM4 1nO2h M3 O 56O2f 1bdM1j
4M1e 8M eM mMl 11sM40 4gM7 afM 1pM4 fT doM4 72M2 6rM 2M 7M2 5M 7eR5s M7 23Ry M7 Rl ltA5p
c2Og0 1pO3 1pO 4yOvs 4O4b 4O8n 26O9g cO15 7O1a 1O7 8Oe 4O9 7O63"

def markTable : Table := .ofText markText
def joiningTable : Table := .ofText joiningText
def directionTable : Table := .ofText directionText

def isMark (n : Nat) : Bool := (markTable.find? n).isSome

inductive Joining
  | causing | dual | left | right | transparent | none
  deriving DecidableEq, Repr

def joining (n : Nat) : Joining :=
  match (joiningTable.find? n).map Run.kind with
  | some 'C' => .causing
  | some 'D' => .dual
  | some 'L' => .left
  | some 'R' => .right
  | some 'T' => .transparent
  | _ => .none

inductive Direction
  | left | right | arabicLetter | arabicNumber | europeanNumber | separator | terminator
  | commonSeparator | nonspacing | boundary | otherNeutral | other
  deriving DecidableEq, Repr

def direction (n : Nat) : Direction :=
  match (directionTable.find? n).map Run.kind with
  | Option.none => .left
  | some 'R' => .right
  | some 'A' => .arabicLetter
  | some 'N' => .arabicNumber
  | some 'E' => .europeanNumber
  | some 'S' => .separator
  | some 'T' => .terminator
  | some 'C' => .commonSeparator
  | some 'M' => .nonspacing
  | some 'B' => .boundary
  | some 'O' => .otherNeutral
  | some _ => .other

end PageTelemetry.Unicode
