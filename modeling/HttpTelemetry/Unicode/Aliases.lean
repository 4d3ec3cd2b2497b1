/-!
# Names of properties and values

The names the character database gives to properties and to the values of the general category,
the age and the text segmentation classes, as of Unicode 16.0. Each entry lists the names of one
property or value separated by colons: its short name, its long name, and any other names. The
long name is the one the tables of the library go by. Script names are listed with the scripts.
-/

namespace HttpTelemetry.Unicode

/-- The properties. -/
def propertyNamesText : String :=
  " ".intercalate
    ["cjkAccountingNumeric:kAccountingNumeric cjkOtherNumeric:kOtherNumeric",
     "cjkPrimaryNumeric:kPrimaryNumeric nv:Numeric_Value bmg:Bidi_Mirroring_Glyph",
     "bpb:Bidi_Paired_Bracket cf:Case_Folding cjkCompatibilityVariant:kCompatibilityVariant",
     "dm:Decomposition_Mapping EqUIdeo:Equivalent_Unified_Ideograph FC_NFKC:FC_NFKC_Closure",
     "lc:Lowercase_Mapping NFKC_CF:NFKC_Casefold NFKC_SCF:NFKC_Simple_Casefold",
     "scf:Simple_Case_Folding:sfc slc:Simple_Lowercase_Mapping stc:Simple_Titlecase_Mapping",
     "suc:Simple_Uppercase_Mapping tc:Titlecase_Mapping uc:Uppercase_Mapping cjkIICore:kIICore",
     "cjkIRG_GSource:kIRG_GSource cjkIRG_HSource:kIRG_HSource cjkIRG_JSource:kIRG_JSource",
     "cjkIRG_KPSource:kIRG_KPSource cjkIRG_KSource:kIRG_KSource cjkIRG_MSource:kIRG_MSource",
     "cjkIRG_SSource:kIRG_SSource cjkIRG_TSource:kIRG_TSource cjkIRG_UKSource:kIRG_UKSource",
     "cjkIRG_USource:kIRG_USource cjkIRG_VSource:kIRG_VSource",
     "cjkRSUnicode:kRSUnicode:Unicode_Radical_Stroke:URS isc:ISO_Comment JSN:Jamo_Short_Name",
     "kEH_Cat:kEH_Cat kEH_Desc:kEH_Desc kEH_HG:kEH_HG kEH_IFAO:kEH_IFAO kEH_JSesh:kEH_JSesh na:Name",
     "na1:Unicode_1_Name Name_Alias:Name_Alias scx:Script_Extensions age:Age blk:Block sc:Script",
     "bc:Bidi_Class bpt:Bidi_Paired_Bracket_Type ccc:Canonical_Combining_Class dt:Decomposition_Type",
     "ea:East_Asian_Width gc:General_Category GCB:Grapheme_Cluster_Break hst:Hangul_Syllable_Type",
     "InCB:Indic_Conjunct_Break InPC:Indic_Positional_Category InSC:Indic_Syllabic_Category",
     "jg:Joining_Group jt:Joining_Type lb:Line_Break NFC_QC:NFC_Quick_Check NFD_QC:NFD_Quick_Check",
     "NFKC_QC:NFKC_Quick_Check NFKD_QC:NFKD_Quick_Check nt:Numeric_Type SB:Sentence_Break",
     "vo:Vertical_Orientation WB:Word_Break AHex:ASCII_Hex_Digit Alpha:Alphabetic Bidi_C:Bidi_Control",
     "Bidi_M:Bidi_Mirrored Cased:Cased CE:Composition_Exclusion CI:Case_Ignorable",
     "Comp_Ex:Full_Composition_Exclusion CWCF:Changes_When_Casefolded CWCM:Changes_When_Casemapped",
     "CWKCF:Changes_When_NFKC_Casefolded CWL:Changes_When_Lowercased CWT:Changes_When_Titlecased",
     "CWU:Changes_When_Uppercased Dash:Dash Dep:Deprecated DI:Default_Ignorable_Code_Point",
     "Dia:Diacritic EBase:Emoji_Modifier_Base EComp:Emoji_Component EMod:Emoji_Modifier Emoji:Emoji",
     "EPres:Emoji_Presentation Ext:Extender ExtPict:Extended_Pictographic Gr_Base:Grapheme_Base",
     "Gr_Ext:Grapheme_Extend Gr_Link:Grapheme_Link Hex:Hex_Digit Hyphen:Hyphen",
     "ID_Compat_Math_Continue:ID_Compat_Math_Continue ID_Compat_Math_Start:ID_Compat_Math_Start",
     "IDC:ID_Continue Ideo:Ideographic IDS:ID_Start IDSB:IDS_Binary_Operator IDST:IDS_Trinary_Operator",
     "IDSU:IDS_Unary_Operator Join_C:Join_Control kEH_NoMirror:kEH_NoMirror kEH_NoRotate:kEH_NoRotate",
     "LOE:Logical_Order_Exception Lower:Lowercase Math:Math MCM:Modifier_Combining_Mark",
     "NChar:Noncharacter_Code_Point OAlpha:Other_Alphabetic ODI:Other_Default_Ignorable_Code_Point",
     "OGr_Ext:Other_Grapheme_Extend OIDC:Other_ID_Continue OIDS:Other_ID_Start OLower:Other_Lowercase",
     "OMath:Other_Math OUpper:Other_Uppercase Pat_Syn:Pattern_Syntax Pat_WS:Pattern_White_Space",
     "PCM:Prepended_Concatenation_Mark QMark:Quotation_Mark Radical:Radical RI:Regional_Indicator",
     "SD:Soft_Dotted STerm:Sentence_Terminal Term:Terminal_Punctuation UIdeo:Unified_Ideograph",
     "Upper:Uppercase VS:Variation_Selector WSpace:White_Space:space XIDC:XID_Continue XIDS:XID_Start",
     "XO_NFC:Expands_On_NFC XO_NFD:Expands_On_NFD XO_NFKC:Expands_On_NFKC XO_NFKD:Expands_On_NFKD"]

/-- The general categories and their groups. -/
def categoryNamesText : String :=
  " ".intercalate
    ["C:Other Cc:Control:cntrl Cf:Format Cn:Unassigned Co:Private_Use Cs:Surrogate L:Letter",
     "LC:Cased_Letter Ll:Lowercase_Letter Lm:Modifier_Letter Lo:Other_Letter Lt:Titlecase_Letter",
     "Lu:Uppercase_Letter M:Mark:Combining_Mark Mc:Spacing_Mark Me:Enclosing_Mark Mn:Nonspacing_Mark",
     "N:Number Nd:Decimal_Number:digit Nl:Letter_Number No:Other_Number P:Punctuation:punct",
     "Pc:Connector_Punctuation Pd:Dash_Punctuation Pe:Close_Punctuation Pf:Final_Punctuation",
     "Pi:Initial_Punctuation Po:Other_Punctuation Ps:Open_Punctuation S:Symbol Sc:Currency_Symbol",
     "Sk:Modifier_Symbol Sm:Math_Symbol So:Other_Symbol Z:Separator Zl:Line_Separator",
     "Zp:Paragraph_Separator Zs:Space_Separator"]

/-- The versions of the age property. -/
def ageNamesText : String :=
  " ".intercalate
    ["1.1:V1_1 2.0:V2_0 2.1:V2_1 3.0:V3_0 3.1:V3_1 3.2:V3_2 4.0:V4_0 4.1:V4_1 5.0:V5_0 5.1:V5_1",
     "5.2:V5_2 6.0:V6_0 6.1:V6_1 6.2:V6_2 6.3:V6_3 7.0:V7_0 8.0:V8_0 9.0:V9_0 10.0:V10_0 11.0:V11_0",
     "12.0:V12_0 12.1:V12_1 13.0:V13_0 14.0:V14_0 15.0:V15_0 15.1:V15_1 16.0:V16_0 NA:Unassigned"]

/-- The grapheme cluster break classes. -/
def graphemeClusterBreakNamesText : String :=
  " ".intercalate
    ["CN:Control CR:CR EB:E_Base EBG:E_Base_GAZ EM:E_Modifier EX:Extend GAZ:Glue_After_Zwj L:L LF:LF",
     "LV:LV LVT:LVT PP:Prepend RI:Regional_Indicator SM:SpacingMark T:T V:V XX:Other ZWJ:ZWJ"]

/-- The word break classes. -/
def wordBreakNamesText : String :=
  " ".intercalate
    ["CR:CR DQ:Double_Quote EB:E_Base EBG:E_Base_GAZ EM:E_Modifier EX:ExtendNumLet Extend:Extend",
     "FO:Format GAZ:Glue_After_Zwj HL:Hebrew_Letter KA:Katakana LE:ALetter LF:LF MB:MidNumLet",
     "ML:MidLetter MN:MidNum NL:Newline NU:Numeric RI:Regional_Indicator SQ:Single_Quote",
     "WSegSpace:WSegSpace XX:Other ZWJ:ZWJ"]

/-- The sentence break classes. -/
def sentenceBreakNamesText : String :=
  " ".intercalate
    ["AT:ATerm CL:Close CR:CR EX:Extend FO:Format LE:OLetter LF:LF LO:Lower NU:Numeric SC:SContinue",
     "SE:Sep SP:Sp ST:STerm UP:Upper XX:Other"]

/-- The entries of a names text, each a list of names. -/
def readNames (text : String) : List (List String) :=
  (text.splitOn " ").filter (· ≠ "") |>.map (·.splitOn ":")

end HttpTelemetry.Unicode
