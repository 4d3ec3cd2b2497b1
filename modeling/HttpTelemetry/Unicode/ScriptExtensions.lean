import HttpTelemetry.Unicode.Script
/-!
# Script extensions

The scripts a code point is used with. Most code points are used with their own script only; the
table lists the others, each closed range of code points in hexadecimal (a single code point
stands for a range of one) followed by `=` and the codes of the scripts it is used with,
separated by commas. The data is that of Unicode 16.0.
-/

namespace HttpTelemetry.Unicode

/-- The code points whose scripts differ from their own script, with those scripts. -/
def scriptExtensionText : String :=
  " ".intercalate
    ["b7=Avst,Cari,Copt,Dupl,Elba,Geor,Glag,Gong,Goth,Grek,Hani,Latn,Lydi,Mahj,Perm,Shaw",
     "2bc=Beng,Cyrl,Deva,Latn,Lisu,Thai,Toto 2c7=Bopo,Latn 2c9-2cb=Bopo,Latn 2cd=Latn,Lisu",
     "2d7=Latn,Thai 2d9=Bopo,Latn 300=Cher,Copt,Cyrl,Grek,Latn,Perm,Sunu,Tale",
     "301=Cher,Cyrl,Grek,Latn,Osge,Sunu,Tale,Todr 302=Cher,Cyrl,Latn,Tfng 303=Glag,Latn,Sunu,Syrc,Thai",
     "304=Aghb,Cher,Copt,Cyrl,Goth,Grek,Latn,Osge,Syrc,Tfng,Todr 305=Copt,Elba,Glag,Goth,Kana,Latn",
     "306=Cyrl,Grek,Latn,Perm 307=Copt,Dupl,Hebr,Latn,Perm,Syrc,Tale,Tfng,Todr",
     "308=Armn,Cyrl,Dupl,Goth,Grek,Hebr,Latn,Perm,Syrc,Tale 309=Latn,Tfng 30a=Dupl,Latn,Syrc",
     "30b=Cher,Cyrl,Latn,Osge 30c=Cher,Latn,Tale 30d=Latn,Sunu 30e=Ethi,Latn 310=Latn,Sunu",
     "311=Cyrl,Latn,Todr 313=Grek,Latn,Perm,Todr 323=Cher,Dupl,Kana,Latn,Syrc 324=Cher,Dupl,Latn,Syrc",
     "325=Latn,Syrc 32d=Latn,Sunu,Syrc 32e=Latn,Syrc 330=Cher,Latn,Syrc",
     "331=Aghb,Cher,Goth,Latn,Sunu,Thai 342=Grek 345=Grek 358=Latn,Osge 35e=Aghb,Latn,Todr",
     "363-36f=Latn 374-375=Copt,Grek 483=Cyrl,Perm 484=Cyrl,Glag 485-486=Cyrl,Latn 487=Cyrl,Glag",
     "589=Armn,Geor,Glag 60c=Arab,Gara,Nkoo,Rohg,Syrc,Thaa,Yezi 61b=Arab,Gara,Nkoo,Rohg,Syrc,Thaa,Yezi",
     "61c=Arab,Syrc,Thaa 61f=Adlm,Arab,Gara,Nkoo,Rohg,Syrc,Thaa,Yezi",
     "640=Adlm,Arab,Mand,Mani,Ougr,Phlp,Rohg,Sogd,Syrc 64b-655=Arab,Syrc 660-669=Arab,Thaa,Yezi",
     "670=Arab,Syrc 6d4=Arab,Rohg 951=Beng,Deva,Gran,Gujr,Guru,Knda,Latn,Mlym,Orya,Shrd,Taml,Telu,Tirh",
     "952=Beng,Deva,Gran,Gujr,Guru,Knda,Latn,Mlym,Orya,Taml,Telu,Tirh",
     "964=Beng,Deva,Dogr,Gong,Gonm,Gran,Gujr,Guru,Knda,Mahj,Mlym,Nand,Onao,Orya,Sind,Sinh,Sylo,Takr,Taml,Telu,Tirh",
     "965=Beng,Deva,Dogr,Gong,Gonm,Gran,Gujr,Gukh,Guru,Knda,Limb,Mahj,Mlym,Nand,Onao,Orya,Sind,Sinh,Sylo,Takr,Taml,Telu,Tirh",
     "966-96f=Deva,Dogr,Kthi,Mahj 9e6-9ef=Beng,Cakm,Sylo a66-a6f=Guru,Mult ae6-aef=Gujr,Khoj",
     "be6-bf3=Gran,Taml ce6-cef=Knda,Nand,Tutg 1040-1049=Cakm,Mymr,Tale 10fb=Geor,Glag,Latn",
     "16eb-16ed=Runr 1735-1736=Buhd,Hano,Tagb,Tglg 1802-1803=Mong,Phag 1805=Mong,Phag",
     "1cd0=Beng,Deva,Gran,Knda 1cd1=Deva 1cd2=Beng,Deva,Gran,Knda 1cd3=Deva,Gran,Knda 1cd4=Deva",
     "1cd5-1cd6=Beng,Deva 1cd7=Deva,Shrd 1cd8=Beng,Deva 1cd9=Deva,Shrd",
     "1cda=Deva,Knda,Mlym,Orya,Taml,Telu 1cdb=Deva 1cdc-1cdd=Deva,Shrd 1cde-1cdf=Deva 1ce0=Deva,Shrd",
     "1ce1=Beng,Deva 1ce2-1ce8=Deva 1ce9=Deva,Nand 1cea=Beng,Deva 1ceb-1cec=Deva 1ced=Beng,Deva",
     "1cee-1cf1=Deva 1cf2=Beng,Deva,Gran,Knda,Mlym,Nand,Orya,Sinh,Telu,Tirh,Tutg 1cf3=Deva,Gran",
     "1cf4=Deva,Gran,Knda,Tutg 1cf5-1cf6=Beng,Deva 1cf7=Beng 1cf8-1cf9=Deva,Gran 1cfa=Nand",
     "1dc0-1dc1=Grek 1df8=Cyrl,Latn,Syrc 1dfa=Syrc 202f=Latn,Mong,Phag 204f=Adlm,Arab",
     "205a=Cari,Geor,Glag,Hung,Lyci,Orkh 205d=Cari,Grek,Hung,Mero 20f0=Deva,Gran,Latn 2e17=Copt,Latn",
     "2e30=Avst,Orkh 2e31=Avst,Cari,Geor,Hung,Kthi,Lydi,Samr 2e3c=Dupl 2e41=Adlm,Arab,Hung",
     "2e43=Cyrl,Glag 2ff0-2fff=Hani,Tang 3001=Bopo,Hang,Hani,Hira,Kana,Mong,Yiii",
     "3002=Bopo,Hang,Hani,Hira,Kana,Mong,Phag,Yiii 3003=Bopo,Hang,Hani,Hira,Kana 3006=Hani",
     "3008-3009=Bopo,Hang,Hani,Hira,Kana,Mong,Tibt,Yiii",
     "300a-300b=Bopo,Hang,Hani,Hira,Kana,Lisu,Mong,Tibt,Yiii 300c-3011=Bopo,Hang,Hani,Hira,Kana,Yiii",
     "3013=Bopo,Hang,Hani,Hira,Kana 3014-301b=Bopo,Hang,Hani,Hira,Kana,Yiii",
     "301c-301f=Bopo,Hang,Hani,Hira,Kana 302a-302d=Bopo,Hani 3030=Bopo,Hang,Hani,Hira,Kana",
     "3031-3035=Hira,Kana 3037=Bopo,Hang,Hani,Hira,Kana 303c-303d=Hani,Hira,Kana 303e-303f=Hani",
     "3099-309c=Hira,Kana 30a0=Hira,Kana 30fb=Bopo,Hang,Hani,Hira,Kana,Yiii 30fc=Hira,Kana",
     "3190-319f=Hani 31c0-31e5=Hani 31ef=Hani,Tang 3220-3247=Hani 3280-32b0=Hani 32c0-32cb=Hani",
     "32ff=Hani 3358-3370=Hani 337b-337f=Hani 33e0-33fe=Hani a66f=Cyrl,Glag a700-a707=Hani,Latn",
     "a830-a832=Deva,Dogr,Gujr,Guru,Khoj,Knda,Kthi,Mahj,Mlym,Modi,Nand,Sind,Takr,Tirh,Tutg",
     "a833-a835=Deva,Dogr,Gujr,Guru,Khoj,Knda,Kthi,Mahj,Modi,Nand,Sind,Takr,Tirh,Tutg",
     "a836-a839=Deva,Dogr,Gujr,Guru,Khoj,Kthi,Mahj,Modi,Sind,Takr,Tirh a8f1=Beng,Deva,Tutg",
     "a8f3=Deva,Taml a92e=Kali,Latn,Mymr a9cf=Bugi,Java fd3e-fd3f=Arab,Nkoo fdf2=Arab,Thaa",
     "fdfd=Arab,Thaa fe45-fe46=Bopo,Hang,Hani,Hira,Kana ff61-ff65=Bopo,Hang,Hani,Hira,Kana,Yiii",
     "ff70=Hira,Kana ff9e-ff9f=Hira,Kana 10100-10101=Cpmn,Cprt,Linb 10102=Cprt,Linb",
     "10107-10133=Cprt,Lina,Linb 10137-1013f=Cprt,Linb 102e0-102fb=Arab,Copt 10af2=Mani,Ougr",
     "11301=Gran,Taml 11303=Gran,Taml 1133b-1133c=Gran,Taml 11fd0-11fd1=Gran,Taml 11fd3=Gran,Taml",
     "1bca0-1bca3=Dupl 1d360-1d371=Hani 1f250-1f251=Hani"]

/-- Reads one `range=Code,Code` entry. -/
def readScriptExtension (item : String) : Option ((Nat × Nat) × List String) :=
  match item.splitOn "=" with
  | [range, codes] =>
    match readRanges range.toList with
    | [r] => some (r, codes.splitOn ",")
    | _ => none
  | _ => none

/-- The entries of the table. -/
def scriptExtensionEntries : List ((Nat × Nat) × List String) :=
  (scriptExtensionText.splitOn " ").filterMap readScriptExtension

/-- The code points used with the script of the given code: those of the script that the
table does not list, and those the table lists with the script. -/
def scriptExtensionSet (code : String) : RangeSet :=
  let listed := RangeSet.normalize (scriptExtensionEntries.map (·.1))
  let withCode := RangeSet.normalize
    ((scriptExtensionEntries.filter (·.2.contains code)).map (·.1))
  ((scriptSet code).diff listed).union withCode

end HttpTelemetry.Unicode
