import LineScript.Text.CharacterName.Block

/-!
Names of the characters of the alphabets of Europe and the Near East, with the punctuation and the
combining marks that they share.
-/

namespace LineScript.Text

def alphabetNames : Array NameBlock := #[
  ⟨32, ["aSPACEaEXCLAMATION MARKaQUOTATION MARKaNUMBER SIGNaDOLLAR SIGNaPERCENT SIGNaAMPERSAND",
    "bPOSTROPHEaLEFT PARENTHESISaRIGHT PARENTHESISaASTERISKaPLUS SIGNaCOMMAaHYPHEN-MINUS",
    "aFULL STOPaSOLIDUSaDIGIT ZEROgONEgTWOhHREEgFOURhIVEgSIXhEVENgEIGHTgNINEaCOLONaSEMICOLON",
    "aLESS-THAN SIGNaEQUALS SIGNaGREATER-THAN SIGNaQUESTION MARKaCOMMERCIAL AT",
    "aLATIN CAPITAL LETTER AvBvCvDvEvFvGvHvIvJvKvLvMvNvOvPvQvRvSvTvUvVvWvXvYvZ",
    "bEFT SQUARE BRACKETaREVERSE SOLIDUSbIGHT SQUARE BRACKETaCIRCUMFLEX ACCENTaLOW LINE",
    "aGRAVE ACCENTaLATIN SMALL LETTER AtBtCtDtEtFtGtHtItJtKtLtMtNtOtPtQtRtStTtUtVtWtXtYtZ",
    "bEFT CURLY BRACKETaVERTICAL LINEaRIGHT CURLY BRACKETaTILDE"]⟩,
  ⟨160, ["aNO-BREAK SPACEaINVERTED EXCLAMATION MARKaCENT SIGNaPOUND SIGNaCURRENCY SIGN",
    "aYEN SIGNaBROKEN BARaSECTION SIGNaDIAERESISaCOPYRIGHT SIGNaFEMININE ORDINAL INDICATOR",
    "aLEFT-POINTING DOUBLE ANGLE QUOTATION MARKaNOT SIGNaSOFT HYPHENaREGISTERED SIGNaMACRON",
    "aDEGREE SIGNaPLUS-MINUS SIGNaSUPERSCRIPT TWOnHREEaACUTE ACCENTaMICRO SIGNaPILCROW SIGN",
    "aMIDDLE DOTaCEDILLAaSUPERSCRIPT ONEaMASCULINE ORDINAL INDICATOR",
    "aRIGHT-POINTING DOUBLE ANGLE QUOTATION MARKaVULGAR FRACTION ONE QUARTERuHALF",
    "qTHREE QUARTERSaINVERTED QUESTION MARKaLATIN CAPITAL LETTER A WITH GRAVEzTH ACUTE",
    "zTH CIRCUMFLEXzTH TILDEzTH DIAERESISzTH RING ABOVEwEvC WITH CEDILLAvE WITH GRAVEzTH ACUTE",
    "zTH CIRCUMFLEXzTH DIAERESISvI WITH GRAVEzTH ACUTEzTH CIRCUMFLEXzTH DIAERESISvETH",
    "vN WITH TILDEvO WITH GRAVEzTH ACUTEzTH CIRCUMFLEXzTH TILDEzTH DIAERESIS",
    "aMULTIPLICATION SIGNaLATIN CAPITAL LETTER O WITH STROKEvU WITH GRAVEzTH ACUTE",
    "zTH CIRCUMFLEXzTH DIAERESISvY WITH ACUTEvTHORNgSMALL LETTER SHARP StA WITH GRAVEz ACUTE",
    "z CIRCUMFLEXz TILDEz DIAERESISz RING ABOVEuEtC WITH CEDILLAtE WITH GRAVEz ACUTE",
    "z CIRCUMFLEXz DIAERESIStI WITH GRAVEz ACUTEz CIRCUMFLEXz DIAERESIStETHtN WITH TILDE",
    "tO WITH GRAVEz ACUTEz CIRCUMFLEXz TILDEz DIAERESISaDIVISION SIGN",
    "aLATIN SMALL LETTER O WITH STROKEtU WITH GRAVEz ACUTEz CIRCUMFLEXz DIAERESIStY WITH ACUTE",
    "tTHORNtY WITH DIAERESISgCAPITAL LETTER A WITH MACRONgSMALL LETTER A WITH MACRON",
    "gCAPITAL LETTER A WITH BREVEgSMALL LETTER A WITH BREVEgCAPITAL LETTER A WITH OGONEK",
    "gSMALL LETTER A WITH OGONEKgCAPITAL LETTER C WITH ACUTEgSMALL LETTER C WITH ACUTE",
    "gCAPITAL LETTER C WITH CIRCUMFLEXgSMALL LETTER C WITH CIRCUMFLEX",
    "gCAPITAL LETTER C WITH DOT ABOVEgSMALL LETTER C WITH DOT ABOVE",
    "gCAPITAL LETTER C WITH CARONgSMALL LETTER C WITH CARONgCAPITAL LETTER D WITH CARON",
    "gSMALL LETTER D WITH CARONgCAPITAL LETTER D WITH STROKEgSMALL LETTER D WITH STROKE",
    "gCAPITAL LETTER E WITH MACRONgSMALL LETTER E WITH MACRONgCAPITAL LETTER E WITH BREVE",
    "gSMALL LETTER E WITH BREVEgCAPITAL LETTER E WITH DOT ABOVEgSMALL LETTER E WITH DOT ABOVE",
    "gCAPITAL LETTER E WITH OGONEKgSMALL LETTER E WITH OGONEKgCAPITAL LETTER E WITH CARON",
    "gSMALL LETTER E WITH CARONgCAPITAL LETTER G WITH CIRCUMFLEX",
    "gSMALL LETTER G WITH CIRCUMFLEXgCAPITAL LETTER G WITH BREVEgSMALL LETTER G WITH BREVE",
    "gCAPITAL LETTER G WITH DOT ABOVEgSMALL LETTER G WITH DOT ABOVE",
    "gCAPITAL LETTER G WITH CEDILLAgSMALL LETTER G WITH CEDILLA",
    "gCAPITAL LETTER H WITH CIRCUMFLEXgSMALL LETTER H WITH CIRCUMFLEX",
    "gCAPITAL LETTER H WITH STROKEgSMALL LETTER H WITH STROKEgCAPITAL LETTER I WITH TILDE",
    "gSMALL LETTER I WITH TILDEgCAPITAL LETTER I WITH MACRONgSMALL LETTER I WITH MACRON",
    "gCAPITAL LETTER I WITH BREVEgSMALL LETTER I WITH BREVEgCAPITAL LETTER I WITH OGONEK",
    "gSMALL LETTER I WITH OGONEKgCAPITAL LETTER I WITH DOT ABOVEgSMALL LETTER DOTLESS I",
    "gCAPITAL LIGATURE IJgSMALL LIGATURE IJgCAPITAL LETTER J WITH CIRCUMFLEX",
    "gSMALL LETTER J WITH CIRCUMFLEXgCAPITAL LETTER K WITH CEDILLAgSMALL LETTER K WITH CEDILLA",
    "uRAgCAPITAL LETTER L WITH ACUTEgSMALL LETTER L WITH ACUTEgCAPITAL LETTER L WITH CEDILLA",
    "gSMALL LETTER L WITH CEDILLAgCAPITAL LETTER L WITH CARONgSMALL LETTER L WITH CARON",
    "gCAPITAL LETTER L WITH MIDDLE DOTgSMALL LETTER L WITH MIDDLE DOT",
    "gCAPITAL LETTER L WITH STROKEgSMALL LETTER L WITH STROKEgCAPITAL LETTER N WITH ACUTE",
    "gSMALL LETTER N WITH ACUTEgCAPITAL LETTER N WITH CEDILLAgSMALL LETTER N WITH CEDILLA",
    "gCAPITAL LETTER N WITH CARONgSMALL LETTER N WITH CARONvPRECEDED BY APOSTROPHE",
    "gCAPITAL LETTER ENGgSMALL LETTER ENGgCAPITAL LETTER O WITH MACRON",
    "gSMALL LETTER O WITH MACRONgCAPITAL LETTER O WITH BREVEgSMALL LETTER O WITH BREVE",
    "gCAPITAL LETTER O WITH DOUBLE ACUTEgSMALL LETTER O WITH DOUBLE ACUTEgCAPITAL LIGATURE OE",
    "gSMALL LIGATURE OEgCAPITAL LETTER R WITH ACUTEgSMALL LETTER R WITH ACUTE",
    "gCAPITAL LETTER R WITH CEDILLAgSMALL LETTER R WITH CEDILLAgCAPITAL LETTER R WITH CARON",
    "gSMALL LETTER R WITH CARONgCAPITAL LETTER S WITH ACUTEgSMALL LETTER S WITH ACUTE",
    "gCAPITAL LETTER S WITH CIRCUMFLEXgSMALL LETTER S WITH CIRCUMFLEX",
    "gCAPITAL LETTER S WITH CEDILLAgSMALL LETTER S WITH CEDILLAgCAPITAL LETTER S WITH CARON",
    "gSMALL LETTER S WITH CARONgCAPITAL LETTER T WITH CEDILLAgSMALL LETTER T WITH CEDILLA",
    "gCAPITAL LETTER T WITH CARONgSMALL LETTER T WITH CARONgCAPITAL LETTER T WITH STROKE",
    "gSMALL LETTER T WITH STROKEgCAPITAL LETTER U WITH TILDEgSMALL LETTER U WITH TILDE",
    "gCAPITAL LETTER U WITH MACRONgSMALL LETTER U WITH MACRONgCAPITAL LETTER U WITH BREVE",
    "gSMALL LETTER U WITH BREVEgCAPITAL LETTER U WITH RING ABOVE",
    "gSMALL LETTER U WITH RING ABOVEgCAPITAL LETTER U WITH DOUBLE ACUTE",
    "gSMALL LETTER U WITH DOUBLE ACUTEgCAPITAL LETTER U WITH OGONEKgSMALL LETTER U WITH OGONEK",
    "gCAPITAL LETTER W WITH CIRCUMFLEXgSMALL LETTER W WITH CIRCUMFLEX",
    "gCAPITAL LETTER Y WITH CIRCUMFLEXgSMALL LETTER Y WITH CIRCUMFLEX",
    "gCAPITAL LETTER Y WITH DIAERESISvZ WITH ACUTEgSMALL LETTER Z WITH ACUTE",
    "gCAPITAL LETTER Z WITH DOT ABOVEgSMALL LETTER Z WITH DOT ABOVE",
    "gCAPITAL LETTER Z WITH CARONgSMALL LETTER Z WITH CARONtLONG StB WITH STROKE",
    "gCAPITAL LETTER B WITH HOOKzTH TOPBARgSMALL LETTER B WITH TOPBARgCAPITAL LETTER TONE SIX",
    "gSMALL LETTER TONE SIXgCAPITAL LETTER OPEN OvC WITH HOOKgSMALL LETTER C WITH HOOK",
    "gCAPITAL LETTER AFRICAN DvD WITH HOOKzTH TOPBARgSMALL LETTER D WITH TOPBARtTURNED DELTA",
    "gCAPITAL LETTER REVERSED EvSCHWAvOPEN EvF WITH HOOKgSMALL LETTER F WITH HOOK",
    "gCAPITAL LETTER G WITH HOOKwAMMAgSMALL LETTER HVgCAPITAL LETTER IOTAw WITH STROKE",
    "vK WITH HOOKgSMALL LETTER K WITH HOOKtL WITH BARuAMBDA WITH STROKE",
    "gCAPITAL LETTER TURNED MvN WITH LEFT HOOKgSMALL LETTER N WITH LONG RIGHT LEG",
    "gCAPITAL LETTER O WITH MIDDLE TILDEzTH HORNgSMALL LETTER O WITH HORNgCAPITAL LETTER OI",
    "gSMALL LETTER OIgCAPITAL LETTER P WITH HOOKgSMALL LETTER P WITH HOOKgLETTER YR",
    "gCAPITAL LETTER TONE TWOgSMALL LETTER TONE TWOgCAPITAL LETTER ESH",
    "gLETTER REVERSED ESH LOOPgSMALL LETTER T WITH PALATAL HOOKgCAPITAL LETTER T WITH HOOK",
    "gSMALL LETTER T WITH HOOKgCAPITAL LETTER T WITH RETROFLEX HOOKvU WITH HORN",
    "gSMALL LETTER U WITH HORNgCAPITAL LETTER UPSILONvV WITH HOOKvY WITH HOOK",
    "gSMALL LETTER Y WITH HOOKgCAPITAL LETTER Z WITH STROKEgSMALL LETTER Z WITH STROKE",
    "gCAPITAL LETTER EZHy REVERSEDgSMALL LETTER EZH REVERSEDxWITH TAILgLETTER TWO WITH STROKE",
    "gCAPITAL LETTER TONE FIVEgSMALL LETTER TONE FIVEgLETTER INVERTED GLOTTAL STOP WITH STROKE",
    "nWYNNnDENTAL CLICKnLATERAL CLICKnALVEOLAR CLICKnRETROFLEX CLICK",
    "gCAPITAL LETTER DZ WITH CARONw WITH SMALL LETTER Z WITH CARONgSMALL LETTER DZ WITH CARON",
    "gCAPITAL LETTER LJw WITH SMALL LETTER JgSMALL LETTER LJgCAPITAL LETTER NJ",
    "w WITH SMALL LETTER JgSMALL LETTER NJgCAPITAL LETTER A WITH CARON",
    "gSMALL LETTER A WITH CARONgCAPITAL LETTER I WITH CARONgSMALL LETTER I WITH CARON",
    "gCAPITAL LETTER O WITH CARONgSMALL LETTER O WITH CARONgCAPITAL LETTER U WITH CARON",
    "gSMALL LETTER U WITH CARONgCAPITAL LETTER U WITH DIAERESIS AND MACRON",
    "gSMALL LETTER U WITH DIAERESIS AND MACRONgCAPITAL LETTER U WITH DIAERESIS AND ACUTE",
    "gSMALL LETTER U WITH DIAERESIS AND ACUTEgCAPITAL LETTER U WITH DIAERESIS AND CARON",
    "gSMALL LETTER U WITH DIAERESIS AND CARONgCAPITAL LETTER U WITH DIAERESIS AND GRAVE",
    "gSMALL LETTER U WITH DIAERESIS AND GRAVEtTURNED E",
    "gCAPITAL LETTER A WITH DIAERESIS AND MACRONgSMALL LETTER A WITH DIAERESIS AND MACRON",
    "gCAPITAL LETTER A WITH DOT ABOVE AND MACRONgSMALL LETTER A WITH DOT ABOVE AND MACRON",
    "gCAPITAL LETTER AE WITH MACRONgSMALL LETTER AE WITH MACRONgCAPITAL LETTER G WITH STROKE",
    "gSMALL LETTER G WITH STROKEgCAPITAL LETTER G WITH CARONgSMALL LETTER G WITH CARON",
    "gCAPITAL LETTER K WITH CARONgSMALL LETTER K WITH CARONgCAPITAL LETTER O WITH OGONEK",
    "gSMALL LETTER O WITH OGONEKgCAPITAL LETTER O WITH OGONEK AND MACRON",
    "gSMALL LETTER O WITH OGONEK AND MACRONgCAPITAL LETTER EZH WITH CARON",
    "gSMALL LETTER EZH WITH CARONtJ WITH CARONgCAPITAL LETTER DZw WITH SMALL LETTER Z",
    "gSMALL LETTER DZgCAPITAL LETTER G WITH ACUTEgSMALL LETTER G WITH ACUTE",
    "gCAPITAL LETTER HWAIRvWYNNvN WITH GRAVEgSMALL LETTER N WITH GRAVE",
    "gCAPITAL LETTER A WITH RING ABOVE AND ACUTEgSMALL LETTER A WITH RING ABOVE AND ACUTE",
    "gCAPITAL LETTER AE WITH ACUTEgSMALL LETTER AE WITH ACUTE",
    "gCAPITAL LETTER O WITH STROKE AND ACUTEgSMALL LETTER O WITH STROKE AND ACUTE",
    "gCAPITAL LETTER A WITH DOUBLE GRAVEgSMALL LETTER A WITH DOUBLE GRAVE",
    "gCAPITAL LETTER A WITH INVERTED BREVEgSMALL LETTER A WITH INVERTED BREVE",
    "gCAPITAL LETTER E WITH DOUBLE GRAVEgSMALL LETTER E WITH DOUBLE GRAVE",
    "gCAPITAL LETTER E WITH INVERTED BREVEgSMALL LETTER E WITH INVERTED BREVE",
    "gCAPITAL LETTER I WITH DOUBLE GRAVEgSMALL LETTER I WITH DOUBLE GRAVE",
    "gCAPITAL LETTER I WITH INVERTED BREVEgSMALL LETTER I WITH INVERTED BREVE",
    "gCAPITAL LETTER O WITH DOUBLE GRAVEgSMALL LETTER O WITH DOUBLE GRAVE",
    "gCAPITAL LETTER O WITH INVERTED BREVEgSMALL LETTER O WITH INVERTED BREVE",
    "gCAPITAL LETTER R WITH DOUBLE GRAVEgSMALL LETTER R WITH DOUBLE GRAVE",
    "gCAPITAL LETTER R WITH INVERTED BREVEgSMALL LETTER R WITH INVERTED BREVE",
    "gCAPITAL LETTER U WITH DOUBLE GRAVEgSMALL LETTER U WITH DOUBLE GRAVE",
    "gCAPITAL LETTER U WITH INVERTED BREVEgSMALL LETTER U WITH INVERTED BREVE",
    "gCAPITAL LETTER S WITH COMMA BELOWgSMALL LETTER S WITH COMMA BELOW",
    "gCAPITAL LETTER T WITH COMMA BELOWgSMALL LETTER T WITH COMMA BELOWgCAPITAL LETTER YOGH",
    "gSMALL LETTER YOGHgCAPITAL LETTER H WITH CARONgSMALL LETTER H WITH CARON",
    "gCAPITAL LETTER N WITH LONG RIGHT LEGgSMALL LETTER D WITH CURLgCAPITAL LETTER OU",
    "gSMALL LETTER OUgCAPITAL LETTER Z WITH HOOKgSMALL LETTER Z WITH HOOK",
    "gCAPITAL LETTER A WITH DOT ABOVEgSMALL LETTER A WITH DOT ABOVE",
    "gCAPITAL LETTER E WITH CEDILLAgSMALL LETTER E WITH CEDILLA",
    "gCAPITAL LETTER O WITH DIAERESIS AND MACRONgSMALL LETTER O WITH DIAERESIS AND MACRON",
    "gCAPITAL LETTER O WITH TILDE AND MACRONgSMALL LETTER O WITH TILDE AND MACRON",
    "gCAPITAL LETTER O WITH DOT ABOVEgSMALL LETTER O WITH DOT ABOVE",
    "gCAPITAL LETTER O WITH DOT ABOVE AND MACRONgSMALL LETTER O WITH DOT ABOVE AND MACRON",
    "gCAPITAL LETTER Y WITH MACRONgSMALL LETTER Y WITH MACRONtL WITH CURLtN WITH CURL",
    "tT WITH CURLtDOTLESS JuB DIGRAPHtQP DIGRAPHgCAPITAL LETTER A WITH STROKEvC WITH STROKE",
    "gSMALL LETTER C WITH STROKEgCAPITAL LETTER L WITH BARvT WITH DIAGONAL STROKE",
    "gSMALL LETTER S WITH SWASH TAILtZ WITH SWASH TAILgCAPITAL LETTER GLOTTAL STOP",
    "gSMALL LETTER GLOTTAL STOPgCAPITAL LETTER B WITH STROKEvU BARvTURNED VvE WITH STROKE",
    "gSMALL LETTER E WITH STROKEgCAPITAL LETTER J WITH STROKEgSMALL LETTER J WITH STROKE",
    "gCAPITAL LETTER SMALL Q WITH HOOK TAILgSMALL LETTER Q WITH HOOK TAIL",
    "gCAPITAL LETTER R WITH STROKEgSMALL LETTER R WITH STROKEgCAPITAL LETTER Y WITH STROKE",
    "gSMALL LETTER Y WITH STROKEtTURNED AtALPHAtTURNED ALPHAtB WITH HOOKtOPEN OtC WITH CURL",
    "tD WITH TAILz HOOKtREVERSED EtSCHWAy WITH HOOKtOPEN EtREVERSED OPEN EzED OPEN E WITH HOOK",
    "tCLOSED REVERSED OPEN EtDOTLESS J WITH STROKEtG WITH HOOKtSCRIPT GgLETTER SMALL CAPITAL G",
    "gSMALL LETTER GAMMAtRAMS HORNtTURNED HtH WITH HOOKuENG WITH HOOKtI WITH STROKEuOTA",
    "gLETTER SMALL CAPITAL IgSMALL LETTER L WITH MIDDLE TILDEz BELTz RETROFLEX HOOKuEZH",
    "tTURNED Mz M WITH LONG LEGtM WITH HOOKtN WITH LEFT HOOKz RETROFLEX HOOK",
    "gLETTER SMALL CAPITAL NgSMALL LETTER BARRED OgLETTER SMALL CAPITAL OE",
    "gSMALL LETTER CLOSED OMEGAtPHItTURNED Rz R WITH LONG LEGz R WITH HOOKtR WITH LONG LEG",
    "z TAILz FISHHOOKuEVERSED R WITH FISHHOOKgLETTER SMALL CAPITAL RzL INVERTED R",
    "gSMALL LETTER S WITH HOOKtESHtDOTLESS J WITH STROKE AND HOOKtSQUAT REVERSED ESH",
    "tESH WITH CURLtTURNED Tu WITH RETROFLEX HOOKtU BARuPSILONtV WITH HOOKtTURNED Vz Wz Y",
    "gLETTER SMALL CAPITAL YgSMALL LETTER Z WITH RETROFLEX HOOKz CURLtEZHw WITH CURL",
    "gLETTER GLOTTAL STOPnPHARYNGEAL VOICED FRICATIVEnINVERTED GLOTTAL STOPnSTRETCHED C",
    "nBILABIAL CLICKnSMALL CAPITAL BgSMALL LETTER CLOSED OPEN E",
    "gLETTER SMALL CAPITAL G WITH HOOKzL HgSMALL LETTER J WITH CROSSED-TAILtTURNED K",
    "gLETTER SMALL CAPITAL LgSMALL LETTER Q WITH HOOKgLETTER GLOTTAL STOP WITH STROKE",
    "nREVERSED GLOTTAL STOP WITH STROKEgSMALL LETTER DZ DIGRAPHuEZH DIGRAPH",
    "uZ DIGRAPH WITH CURLtTS DIGRAPHuESH DIGRAPHuC DIGRAPH WITH CURLtFENG DIGRAPHtLS DIGRAPH",
    "uZ DIGRAPHgLETTER BILABIAL PERCUSSIVEpDENTAL PERCUSSIVE",
    "gSMALL LETTER TURNED H WITH FISHHOOKz H WITH FISHHOOK AND TAILaMODIFIER LETTER SMALL H",
    "x WITH HOOKwJwRwTURNED RzNED R WITH HOOKwCAPITAL INVERTED RwWwYqPRIMEqDOUBLE PRIME",
    "qTURNED COMMAqAPOSTROPHEqREVERSED COMMArIGHT HALF RINGqLEFT HALF RINGqGLOTTAL STOP",
    "qREVERSED GLOTTAL STOPqLEFT ARROWHEADqRIGHT ARROWHEADqUP ARROWHEADqDOWN ARROWHEAD",
    "qCIRCUMFLEX ACCENTaCARONaMODIFIER LETTER VERTICAL LINEqMACRONqACUTE ACCENTqGRAVE ACCENT",
    "qLOW VERTICAL LINEuMACRONuGRAVE ACCENTuACUTE ACCENTqTRIANGULAR COLON",
    "qHALF TRIANGULAR COLONqCENTRED RIGHT HALF RINGyLEFT HALF RINGqUP TACKqDOWN TACKqPLUS SIGN",
    "qMINUS SIGNaBREVEaDOT ABOVEaRING ABOVEaOGONEKaSMALL TILDEaDOUBLE ACUTE ACCENT",
    "aMODIFIER LETTER RHOTIC HOOKqCROSS ACCENTqSMALL GAMMAwLwSwXwREVERSED GLOTTAL STOP",
    "qEXTRA-HIGH TONE BARqHIGH TONE BARqMID TONE BARqLOW TONE BARqEXTRA-LOW TONE BAR",
    "qYIN DEPARTING TONE MARKrANG DEPARTING TONE MARKqVOICINGqUNASPIRATEDqDOUBLE APOSTROPHE",
    "qLOW DOWN ARROWHEADuUP ARROWHEADuLEFT ARROWHEADuRIGHT ARROWHEADwNGqMIDDLE GRAVE ACCENT",
    "xDOUBLE GRAVE ACCENTzUBLE ACUTE ACCENTqLOW TILDEqRAISED COLONqBEGIN HIGH TONE",
    "qEND HIGH TONEqBEGIN LOW TONEqEND LOW TONEqSHELFqOPEN SHELFqLOW LEFT ARROW",
    "aCOMBINING GRAVE ACCENTkACUTE ACCENTkCIRCUMFLEX ACCENTkTILDEkMACRONkOVERLINEkBREVE",
    "kDOT ABOVElIAERESISkHOOK ABOVEkRING ABOVEkDOUBLE ACUTE ACCENTkCARONkVERTICAL LINE ABOVE",
    "kDOUBLE VERTICAL LINE ABOVErGRAVE ACCENTkCANDRABINDUkINVERTED BREVEkTURNED COMMA ABOVE",
    "kCOMMA ABOVEkREVERSED COMMA ABOVEkCOMMA ABOVE RIGHTkGRAVE ACCENT BELOWkACUTE ACCENT BELOW",
    "kLEFT TACK BELOWkRIGHT TACK BELOWkLEFT ANGLE ABOVEkHORNkLEFT HALF RING BELOW",
    "kUP TACK BELOWkDOWN TACK BELOWkPLUS SIGN BELOWkMINUS SIGN BELOWkPALATALIZED HOOK BELOW",
    "kRETROFLEX HOOK BELOWkDOT BELOWlIAERESIS BELOWkRING BELOWkCOMMA BELOWlEDILLAkOGONEK",
    "kVERTICAL LINE BELOWkBRIDGE BELOWkINVERTED DOUBLE ARCH BELOWkCARON BELOW",
    "lIRCUMFLEX ACCENT BELOWkBREVE BELOWkINVERTED BREVE BELOWkTILDE BELOWkMACRON BELOW",
    "kLOW LINEkDOUBLE LOW LINEkTILDE OVERLAYkSHORT STROKE OVERLAYkLONG STROKE OVERLAY",
    "kSHORT SOLIDUS OVERLAYkLONG SOLIDUS OVERLAYkRIGHT HALF RING BELOWkINVERTED BRIDGE BELOW",
    "kSQUARE BELOWlEAGULL BELOWkX ABOVEkVERTICAL TILDEkDOUBLE OVERLINEkGRAVE TONE MARK",
    "kACUTE TONE MARKkGREEK PERISPOMENIqKORONISqDIALYTIKA TONOSqYPOGEGRAMMENIkBRIDGE ABOVE",
    "kEQUALS SIGN BELOWkDOUBLE VERTICAL LINE BELOWkLEFT ANGLE BELOWkNOT TILDE ABOVE",
    "kHOMOTHETIC ABOVEkALMOST EQUAL TO ABOVEkLEFT RIGHT ARROW BELOWkUPWARDS ARROW BELOW",
    "kGRAPHEME JOINERkRIGHT ARROWHEAD ABOVEkLEFT HALF RING ABOVEkFERMATAkX BELOW",
    "kLEFT ARROWHEAD BELOWkRIGHT ARROWHEAD BELOWz AND UP ARROWHEAD BELOWqHALF RING ABOVE",
    "kDOT ABOVE RIGHTkASTERISK BELOWkDOUBLE RING BELOWkZIGZAG ABOVEkDOUBLE BREVE BELOWwrMACRON",
    "x BELOWrTILDErINVERTED BREVErRIGHTWARDS ARROW BELOWkLATIN SMALL LETTER AzTER EzTER I",
    "zTER OzTER UzTER CzTER DzTER HzTER MzTER RzTER TzTER VzTER XaGREEK CAPITAL LETTER HETA",
    "gSMALL LETTER HETAgCAPITAL LETTER ARCHAIC SAMPIgSMALL LETTER ARCHAIC SAMPIgNUMERAL SIGN",
    "gLOWER NUMERAL SIGNgCAPITAL LETTER PAMPHYLIAN DIGAMMAgSMALL LETTER PAMPHYLIAN DIGAMMA"]⟩,
  ⟨890, ["aGREEK YPOGEGRAMMENIgSMALL REVERSED LUNATE SIGMA SYMBOLmDOTTED LUNATE SIGMA SYMBOL",
    "mREVERSED DOTTED LUNATE SIGMA SYMBOLgQUESTION MARKgCAPITAL LETTER YOT"]⟩,
  ⟨900, ["aGREEK TONOSgDIALYTIKA TONOSgCAPITAL LETTER ALPHA WITH TONOSgANO TELEIA",
    "gCAPITAL LETTER EPSILON WITH TONOSwTA WITH TONOSvIOTA WITH TONOS"]⟩,
  ⟨908, ["aGREEK CAPITAL LETTER OMICRON WITH TONOS"]⟩,
  ⟨910, ["aGREEK CAPITAL LETTER UPSILON WITH TONOSvOMEGA WITH TONOS",
    "gSMALL LETTER IOTA WITH DIALYTIKA AND TONOSgCAPITAL LETTER ALPHAvBETAvGAMMAvDELTAvEPSILON",
    "vZETAvETAvTHETAvIOTAvKAPPAvLAMDAvMUvNUvXIvOMICRONvPIvRHO"]⟩,
  ⟨931, ["aGREEK CAPITAL LETTER SIGMAvTAUvUPSILONvPHIvCHIvPSIvOMEGAvIOTA WITH DIALYTIKA",
    "vUPSILON WITH DIALYTIKAgSMALL LETTER ALPHA WITH TONOStEPSILON WITH TONOSuTA WITH TONOS",
    "tIOTA WITH TONOStUPSILON WITH DIALYTIKA AND TONOStALPHAtBETAtGAMMAtDELTAtEPSILONtZETAtETA",
    "tTHETAtIOTAtKAPPAtLAMDAtMUtNUtXItOMICRONtPItRHOtFINAL SIGMAtSIGMAtTAUtUPSILONtPHItCHItPSI",
    "tOMEGAtIOTA WITH DIALYTIKAtUPSILON WITH DIALYTIKAtOMICRON WITH TONOStUPSILON WITH TONOS",
    "tOMEGA WITH TONOSgCAPITAL KAI SYMBOLgBETA SYMBOLgTHETA SYMBOLgUPSILON WITH HOOK SYMBOL",
    "tACUTE AND HOOK SYMBOLtDIAERESIS AND HOOK SYMBOLgPHI SYMBOLhI SYMBOLgKAI SYMBOL",
    "gLETTER ARCHAIC KOPPAgSMALL LETTER ARCHAIC KOPPAgLETTER STIGMAgSMALL LETTER STIGMA",
    "gLETTER DIGAMMAgSMALL LETTER DIGAMMAgLETTER KOPPAgSMALL LETTER KOPPAgLETTER SAMPI",
    "gSMALL LETTER SAMPIaCOPTIC CAPITAL LETTER SHEIhSMALL LETTER SHEIhCAPITAL LETTER FEI",
    "hSMALL LETTER FEIhCAPITAL LETTER KHEIhSMALL LETTER KHEIhCAPITAL LETTER HORI",
    "hSMALL LETTER HORIhCAPITAL LETTER GANGIAhSMALL LETTER GANGIAhCAPITAL LETTER SHIMA",
    "hSMALL LETTER SHIMAhCAPITAL LETTER DEIhSMALL LETTER DEIaGREEK KAPPA SYMBOLgRHO SYMBOL",
    "gLUNATE SIGMA SYMBOLhETTER YOTgCAPITAL THETA SYMBOLgLUNATE EPSILON SYMBOL",
    "gREVERSED LUNATE EPSILON SYMBOLgCAPITAL LETTER SHOgSMALL LETTER SHO",
    "gCAPITAL LUNATE SIGMA SYMBOLpETTER SANgSMALL LETTER SANgRHO WITH STROKE SYMBOL",
    "gCAPITAL REVERSED LUNATE SIGMA SYMBOLoDOTTED LUNATE SIGMA SYMBOL",
    "oREVERSED DOTTED LUNATE SIGMA SYMBOLaCYRILLIC CAPITAL LETTER IE WITH GRAVEzOyDJEyGJE",
    "yUKRAINIAN IEyDZEyBYELORUSSIAN-UKRAINIAN IyYIyJEyLJEyNJEyTSHEyKJEyI WITH GRAVEySHORT U",
    "yDZHEyAyBEyVEyGHEyDEyIEyZHEzEyIySHORT IyKAyELzMzNyOyPEyERzSyTEyUyEFyHAyTSEyCHEySHAzHCHA",
    "yHARD SIGNyYERUySOFT SIGNyEyYUzAjSMALL LETTER AwBEwVEwGHEwDEwIEwZHExEwIwSHORT IwKAwELxMxN",
    "wOwPEwERxSwTEwUwEFwHAwTSEwCHEwSHAyCHAwHARD SIGNwYERUwSOFT SIGNwEwYUxAwIE WITH GRAVExOwDJE",
    "wGJEwUKRAINIAN IEwDZEwBYELORUSSIAN-UKRAINIAN IwYIwJEwLJEwNJEwTSHEwKJEwI WITH GRAVE",
    "wSHORT UwDZHEjCAPITAL LETTER OMEGAjSMALL LETTER OMEGAjCAPITAL LETTER YATjSMALL LETTER YAT",
    "jCAPITAL LETTER IOTIFIED EjSMALL LETTER IOTIFIED EjCAPITAL LETTER LITTLE YUS",
    "jSMALL LETTER LITTLE YUSjCAPITAL LETTER IOTIFIED LITTLE YUS",
    "jSMALL LETTER IOTIFIED LITTLE YUSjCAPITAL LETTER BIG YUSjSMALL LETTER BIG YUS",
    "jCAPITAL LETTER IOTIFIED BIG YUSjSMALL LETTER IOTIFIED BIG YUSjCAPITAL LETTER KSI",
    "jSMALL LETTER KSIjCAPITAL LETTER PSIjSMALL LETTER PSIjCAPITAL LETTER FITA",
    "jSMALL LETTER FITAjCAPITAL LETTER IZHITSAjSMALL LETTER IZHITSA",
    "jCAPITAL LETTER IZHITSA WITH DOUBLE GRAVE ACCENT",
    "jSMALL LETTER IZHITSA WITH DOUBLE GRAVE ACCENTjCAPITAL LETTER UKjSMALL LETTER UK",
    "jCAPITAL LETTER ROUND OMEGAjSMALL LETTER ROUND OMEGAjCAPITAL LETTER OMEGA WITH TITLO",
    "jSMALL LETTER OMEGA WITH TITLOjCAPITAL LETTER OTjSMALL LETTER OTjCAPITAL LETTER KOPPA",
    "jSMALL LETTER KOPPAjTHOUSANDS SIGNbOMBINING CYRILLIC TITLOtPALATALIZATIONtDASIA PNEUMATA",
    "tPSILI PNEUMATAuOKRYTIEtHUNDRED THOUSANDS SIGNtMILLIONS SIGN",
    "bYRILLIC CAPITAL LETTER SHORT I WITH TAILjSMALL LETTER SHORT I WITH TAIL",
    "jCAPITAL LETTER SEMISOFT SIGNjSMALL LETTER SEMISOFT SIGNjCAPITAL LETTER ER WITH TICK",
    "jSMALL LETTER ER WITH TICKjCAPITAL LETTER GHE WITH UPTURNjSMALL LETTER GHE WITH UPTURN",
    "jCAPITAL LETTER GHE WITH STROKEjSMALL LETTER GHE WITH STROKE",
    "jCAPITAL LETTER GHE WITH MIDDLE HOOKjSMALL LETTER GHE WITH MIDDLE HOOK",
    "jCAPITAL LETTER ZHE WITH DESCENDERjSMALL LETTER ZHE WITH DESCENDER",
    "jCAPITAL LETTER ZE WITH DESCENDERjSMALL LETTER ZE WITH DESCENDER",
    "jCAPITAL LETTER KA WITH DESCENDERjSMALL LETTER KA WITH DESCENDER",
    "jCAPITAL LETTER KA WITH VERTICAL STROKEjSMALL LETTER KA WITH VERTICAL STROKE",
    "jCAPITAL LETTER KA WITH STROKEjSMALL LETTER KA WITH STROKEjCAPITAL LETTER BASHKIR KA",
    "jSMALL LETTER BASHKIR KAjCAPITAL LETTER EN WITH DESCENDERjSMALL LETTER EN WITH DESCENDER",
    "jCAPITAL LIGATURE EN GHEjSMALL LIGATURE EN GHEjCAPITAL LETTER PE WITH MIDDLE HOOK",
    "jSMALL LETTER PE WITH MIDDLE HOOKjCAPITAL LETTER ABKHASIAN HAjSMALL LETTER ABKHASIAN HA",
    "jCAPITAL LETTER ES WITH DESCENDERjSMALL LETTER ES WITH DESCENDER",
    "jCAPITAL LETTER TE WITH DESCENDERjSMALL LETTER TE WITH DESCENDER",
    "jCAPITAL LETTER STRAIGHT UjSMALL LETTER STRAIGHT UjCAPITAL LETTER STRAIGHT U WITH STROKE",
    "jSMALL LETTER STRAIGHT U WITH STROKEjCAPITAL LETTER HA WITH DESCENDER",
    "jSMALL LETTER HA WITH DESCENDERjCAPITAL LIGATURE TE TSEjSMALL LIGATURE TE TSE",
    "jCAPITAL LETTER CHE WITH DESCENDERjSMALL LETTER CHE WITH DESCENDER",
    "jCAPITAL LETTER CHE WITH VERTICAL STROKEjSMALL LETTER CHE WITH VERTICAL STROKE",
    "jCAPITAL LETTER SHHAjSMALL LETTER SHHAjCAPITAL LETTER ABKHASIAN CHE",
    "jSMALL LETTER ABKHASIAN CHEjCAPITAL LETTER ABKHASIAN CHE WITH DESCENDER",
    "jSMALL LETTER ABKHASIAN CHE WITH DESCENDERjLETTER PALOCHKAjCAPITAL LETTER ZHE WITH BREVE",
    "jSMALL LETTER ZHE WITH BREVEjCAPITAL LETTER KA WITH HOOKjSMALL LETTER KA WITH HOOK",
    "jCAPITAL LETTER EL WITH TAILjSMALL LETTER EL WITH TAILjCAPITAL LETTER EN WITH HOOK",
    "jSMALL LETTER EN WITH HOOKjCAPITAL LETTER EN WITH TAILjSMALL LETTER EN WITH TAIL",
    "jCAPITAL LETTER KHAKASSIAN CHEjSMALL LETTER KHAKASSIAN CHEjCAPITAL LETTER EM WITH TAIL",
    "jSMALL LETTER EM WITH TAILwPALOCHKAjCAPITAL LETTER A WITH BREVEjSMALL LETTER A WITH BREVE",
    "jCAPITAL LETTER A WITH DIAERESISjSMALL LETTER A WITH DIAERESISjCAPITAL LIGATURE A IE",
    "jSMALL LIGATURE A IEjCAPITAL LETTER IE WITH BREVEjSMALL LETTER IE WITH BREVE",
    "jCAPITAL LETTER SCHWAjSMALL LETTER SCHWAjCAPITAL LETTER SCHWA WITH DIAERESIS",
    "jSMALL LETTER SCHWA WITH DIAERESISjCAPITAL LETTER ZHE WITH DIAERESIS",
    "jSMALL LETTER ZHE WITH DIAERESISjCAPITAL LETTER ZE WITH DIAERESIS",
    "jSMALL LETTER ZE WITH DIAERESISjCAPITAL LETTER ABKHASIAN DZEjSMALL LETTER ABKHASIAN DZE",
    "jCAPITAL LETTER I WITH MACRONjSMALL LETTER I WITH MACRONjCAPITAL LETTER I WITH DIAERESIS",
    "jSMALL LETTER I WITH DIAERESISjCAPITAL LETTER O WITH DIAERESIS",
    "jSMALL LETTER O WITH DIAERESISjCAPITAL LETTER BARRED OjSMALL LETTER BARRED O",
    "jCAPITAL LETTER BARRED O WITH DIAERESISjSMALL LETTER BARRED O WITH DIAERESIS",
    "jCAPITAL LETTER E WITH DIAERESISjSMALL LETTER E WITH DIAERESIS",
    "jCAPITAL LETTER U WITH MACRONjSMALL LETTER U WITH MACRONjCAPITAL LETTER U WITH DIAERESIS",
    "jSMALL LETTER U WITH DIAERESISjCAPITAL LETTER U WITH DOUBLE ACUTE",
    "jSMALL LETTER U WITH DOUBLE ACUTEjCAPITAL LETTER CHE WITH DIAERESIS",
    "jSMALL LETTER CHE WITH DIAERESISjCAPITAL LETTER GHE WITH DESCENDER",
    "jSMALL LETTER GHE WITH DESCENDERjCAPITAL LETTER YERU WITH DIAERESIS",
    "jSMALL LETTER YERU WITH DIAERESISjCAPITAL LETTER GHE WITH STROKE AND HOOK",
    "jSMALL LETTER GHE WITH STROKE AND HOOKjCAPITAL LETTER HA WITH HOOK",
    "jSMALL LETTER HA WITH HOOKjCAPITAL LETTER HA WITH STROKEjSMALL LETTER HA WITH STROKE",
    "jCAPITAL LETTER KOMI DEjSMALL LETTER KOMI DEjCAPITAL LETTER KOMI DJE",
    "jSMALL LETTER KOMI DJEjCAPITAL LETTER KOMI ZJEjSMALL LETTER KOMI ZJE",
    "jCAPITAL LETTER KOMI DZJEjSMALL LETTER KOMI DZJEjCAPITAL LETTER KOMI LJE",
    "jSMALL LETTER KOMI LJEjCAPITAL LETTER KOMI NJEjSMALL LETTER KOMI NJE",
    "jCAPITAL LETTER KOMI SJEjSMALL LETTER KOMI SJEjCAPITAL LETTER KOMI TJE",
    "jSMALL LETTER KOMI TJEjCAPITAL LETTER REVERSED ZEjSMALL LETTER REVERSED ZE",
    "jCAPITAL LETTER EL WITH HOOKjSMALL LETTER EL WITH HOOKjCAPITAL LETTER LHA",
    "jSMALL LETTER LHAjCAPITAL LETTER RHAjSMALL LETTER RHAjCAPITAL LETTER YAEjSMALL LETTER YAE",
    "jCAPITAL LETTER QAjSMALL LETTER QAjCAPITAL LETTER WEjSMALL LETTER WE",
    "jCAPITAL LETTER ALEUT KAjSMALL LETTER ALEUT KAjCAPITAL LETTER EL WITH MIDDLE HOOK",
    "jSMALL LETTER EL WITH MIDDLE HOOKjCAPITAL LETTER EN WITH MIDDLE HOOK",
    "jSMALL LETTER EN WITH MIDDLE HOOKjCAPITAL LETTER PE WITH DESCENDER",
    "jSMALL LETTER PE WITH DESCENDERjCAPITAL LETTER SHHA WITH DESCENDER",
    "jSMALL LETTER SHHA WITH DESCENDERjCAPITAL LETTER EN WITH LEFT HOOK",
    "jSMALL LETTER EN WITH LEFT HOOKjCAPITAL LETTER DZZHEjSMALL LETTER DZZHE",
    "jCAPITAL LETTER DCHEjSMALL LETTER DCHEjCAPITAL LETTER EL WITH DESCENDER",
    "jSMALL LETTER EL WITH DESCENDER"]⟩,
  ⟨1329, ["aARMENIAN CAPITAL LETTER AYByBENyGIMyDAyECHyZAyEHzTyTOyZHEyINIyLIWNyXEHyCAyKENyHO",
    "yJAyGHADyCHEHyMENyYIyNOWySHAyVOyCHAyPEHyJHEHyRAySEHyVEWyTIWNyREHyCOyYIWNyPIWRyKEHyOHyFEH"]⟩,
  ⟨1369, ["aARMENIAN MODIFIER LETTER LEFT HALF RINGjAPOSTROPHEjEMPHASIS MARKkXCLAMATION MARK",
    "jCOMMAjQUESTION MARKjABBREVIATION MARKjSMALL LETTER TURNED AYBwAYBwBENwGIMwDAwECHwZAwEHxT",
    "wTOwZHEwINIwLIWNwXEHwCAwKENwHOwJAwGHADwCHEHwMENwYIwNOWwSHAwVOwCHAwPEHwJHEHwRAwSEHwVEW",
    "wTIWNwREHwCOwYIWNwPIWRwKEHwOHwFEHqIGATURE ECH YIWNqETTER YI WITH STROKEjFULL STOPjHYPHEN"]⟩,
  ⟨1421, ["aRIGHT-FACING ARMENIAN ETERNITY SIGNaLEFT-FACING ARMENIAN ETERNITY SIGN",
    "aARMENIAN DRAM SIGN"]⟩,
  ⟨1425, ["aHEBREW ACCENT ETNAHTAoSEGOLpHALSHELEToZAQEF QATANuGADOLoTIPEHAoREVIAoZARQAoPASHTA",
    "oYETIVoTEVIRoGERESHu MUQDAMrSHAYIMoQARNEY PARAoTELISHA GEDOLAoPAZERoATNAH HAFUKHoMUNAH",
    "pAHAPAKHpERKHAu KEFULAoDARGAoQADMAoTELISHA QETANAoYERAH BEN YOMOoOLEoILUYoDEHIoZINOR",
    "hMARK MASORA CIRCLEhPOINT SHEVAnHATAF SEGOLtPATAHtQAMATSoIRIQnTSEREnSEGOLnPATAHnQAMATS",
    "nHOLAMs HASER FOR VAVnQUBUTSnDAGESH OR MAPIQnMETEGiUNCTUATION MAQAFiOINT RAFE",
    "iUNCTUATION PASEQiOINT SHIN DOToIN DOTiUNCTUATION SOF PASUQhMARK UPPER DOTmLOWER DOT",
    "hPUNCTUATION NUN HAFUKHAiOINT QAMATS QATAN"]⟩,
  ⟨1488, ["aHEBREW LETTER ALEFoBEToGIMELoDALEToHEoVAVoZAYINoHEToTEToYODoFINAL KAFoKAFoLAMED",
    "oFINAL MEMoMEMoFINAL NUNoNUNoSAMEKHoAYINoFINAL PEoPEoFINAL TSADIoTSADIoQOFoRESHoSHINoTAV"]⟩,
  ⟨1519, ["aHEBREW YOD TRIANGLEhLIGATURE YIDDISH DOUBLE VAVyVAV YODyDOUBLE YOD",
    "hPUNCTUATION GERESHwSHAYIM"]⟩,
  ⟨1536, ["aARABIC NUMBER SIGNhSIGN SANAHhFOOTNOTE MARKERhSIGN SAFHAoMVAThNUMBER MARK ABOVE",
    "g-INDIC CUBE ROOTnFOURTH ROOTg RAYg-INDIC PER MILLE SIGNrTEN THOUSAND SIGNbFGHANI SIGN",
    "bRABIC COMMAhDATE SEPARATORhPOETIC VERSE SIGNhSIGN MISRAmSALLALLAHOU ALAYHE WASSALLAM",
    "mALAYHE ASSALLAMmRAHMATULLAH ALAYHEoDI ALLAHOU ANHUmTAKHALLUSiMALL HIGH TAH",
    "sLIGATURE ALEF WITH LAM WITH YEHsZAINnFATHAnDAMMAnKASRAiEMICOLONhLETTER MARK",
    "hEND OF TEXT MARKhTRIPLE DOT PUNCTUATION MARKhQUESTION MARKhLETTER KASHMIRI YEHoHAMZA",
    "oALEF WITH MADDA ABOVEyHAMZA ABOVEoWAW WITH HAMZA ABOVEoALEF WITH HAMZA BELOW",
    "oYEH WITH HAMZA ABOVEoALEFoBEHoTEH MARBUTArpHEHoJEEMoHAHoKHAHoDALoTHALoREHoZAINoSEENpHEEN",
    "pADoDADoTAHoZAHoAINoGHAINoKEHEH WITH TWO DOTS ABOVEzTHREE DOTS BELOW",
    "oFARSI YEH WITH INVERTED VzITH TWO DOTS ABOVEzITH THREE DOTS ABOVEhTATWEELhLETTER FEHoQAF",
    "oKAFoLAMoMEEMoNOONoHEHoWAWoALEF MAKSURAoYEHhFATHATANhDAMMATANhKASRATANhFATHAhDAMMAhKASRA",
    "hSHADDAiUKUNhMADDAH ABOVEhHAMZA ABOVEnBELOWhSUBSCRIPT ALEFhINVERTED DAMMA",
    "hMARK NOON GHUNNAhZWARAKAYhVOWEL SIGN SMALL V ABOVEsINVERTED SMALL V ABOVEsDOT BELOW",
    "hREVERSED DAMMAhFATHA WITH TWO DOTShWAVY HAMZA BELOWg-INDIC DIGIT ZEROtONEtTWOuHREEtFOUR",
    "uIVEtSIXuEVENtEIGHTtNINEg PERCENT SIGNhDECIMAL SEPARATORhTHOUSANDS SEPARATOR",
    "hFIVE POINTED STARhLETTER DOTLESS BEHwQAFoSUPERSCRIPT ALEFoALEF WASLA",
    "uITH WAVY HAMZA ABOVEzAVY HAMZA BELOWoHIGH HAMZAy ALEFzWAWoU WITH HAMZA ABOVE",
    "oHIGH HAMZA YEHoTTEHsEHoBEEHoTEH WITH RINGxTHREE DOTS ABOVE DOWNWARDSoPEHoTEHEHoBEHEH",
    "oHAH WITH HAMZA ABOVExTWO DOTS VERTICAL ABOVEoNYEHoDYEHoHAH WITH THREE DOTS ABOVEoTCHEH",
    "tEHoDDALpAL WITH RINGxDOT BELOWzT BELOW AND SMALL TAHqHALpDAHALpUL",
    "pAL WITH THREE DOTS ABOVE DOWNWARDSxFOUR DOTS ABOVEoRREHpEH WITH SMALL VxRINGxDOT BELOW",
    "xSMALL V BELOWxDOT BELOW AND DOT ABOVExTWO DOTS ABOVEoJEHoREH WITH FOUR DOTS ABOVE",
    "oSEEN WITH DOT BELOW AND DOT ABOVEyTHREE DOTS BELOWzHREE DOTS BELOW AND THREE DOTS ABOVE",
    "pAD WITH TWO DOTS BELOWyHREE DOTS ABOVEoTAH WITH THREE DOTS ABOVE",
    "oAIN WITH THREE DOTS ABOVEoDOTLESS FEHoFEH WITH DOT MOVED BELOWzT BELOWoVEH",
    "oFEH WITH THREE DOTS BELOWoPEHEHoQAF WITH DOT ABOVExTHREE DOTS ABOVEoKEHEHoSWASH KAF",
    "oKAF WITH RINGxDOT ABOVEoNGoKAF WITH THREE DOTS BELOWoGAFr WITH RINGoNGOEH",
    "oGAF WITH TWO DOTS BELOWpUEHpAF WITH THREE DOTS ABOVEoLAM WITH SMALL VxDOT ABOVE",
    "xTHREE DOTS ABOVEzREE DOTS BELOWoNOON WITH DOT BELOWtGHUNNAoRNOONoNOON WITH RING",
    "yTHREE DOTS ABOVEoHEH DOACHASHMEEoTCHEH WITH DOT ABOVEoHEH WITH YEH ABOVEsGOAL",
    "w WITH HAMZA ABOVEoTEH MARBUTA GOALoWAW WITH RINGoKIRGHIZ OEoOEoUoYUoKIRGHIZ YU",
    "oWAW WITH TWO DOTS ABOVEoVEoFARSI YEHoYEH WITH TAILxSMALL VoWAW WITH DOT ABOVEoE",
    "oYEH WITH THREE DOTS BELOWsBARREEy WITH HAMZA ABOVEhFULL STOPhLETTER AE",
    "hSMALL HIGH LIGATURE SAD WITH LAM WITH ALEF MAKSURAzE QAF WITH LAM WITH ALEF MAKSURA",
    "sMEEM INITIAL FORMsLAM ALEFsJEEMsTHREE DOTSsSEENhEND OF AYAHhSTART OF RUB EL HIZB",
    "iMALL HIGH ROUNDED ZEROsUPRIGHT RECTANGULAR ZEROsDOTLESS HEAD OF KHAHsMEEM ISOLATED FORM",
    "nLOW SEENnHIGH MADDAnWAWnYEHnHIGH YEHsNOONhPLACE OF SAJDAHhEMPTY CENTRE LOW STOP",
    "uHIGH STOPhROUNDED HIGH STOP WITH FILLED CENTREhSMALL LOW MEEMhLETTER DAL WITH INVERTED V",
    "oREH WITH INVERTED VaEXTENDED ARABIC-INDIC DIGIT ZEROzIT ONEzIT TWOzIT THREEzIT FOUR",
    "zIT FIVEzIT SIXzIT SEVENzIT EIGHTzIT NINEaARABIC LETTER SHEEN WITH DOT BELOW",
    "oDAD WITH DOT BELOWoGHAIN WITH DOT BELOWhSIGN SINDHI AMPERSANDtPOSTPOSITION MEN",
    "hLETTER HEH WITH INVERTED VaSYRIAC END OF PARAGRAPHhSUPRALINEAR FULL STOP",
    "jBLINEAR FULL STOPjPRALINEAR COLONjBLINEAR COLONhHORIZONTAL COLONhCOLON SKEWED LEFTuRIGHT",
    "hSUPRALINEAR COLON SKEWED LEFTjBLINEAR COLON SKEWED RIGHThCONTRACTIONhHARKLEAN OBELUS",
    "qMETOBELUSqASTERISCUS"]⟩,
  ⟨1807, ["aSYRIAC ABBREVIATION MARKhLETTER ALAPHoSUPERSCRIPT ALAPHoBETHoGAMALt GARSHUNI",
    "oDALATHpOTLESS DALATH RISHoHEoWAWoZAINoHETHoTETHs GARSHUNIoYUDHs HEoKAPHoLAMADHoMIMoNUN",
    "oSEMKATHoFINAL SEMKATHoEoPEoREVERSED PEoSADHEoQAPHoRISHoSHINoTAWoPERSIAN BHETHwGHAMAL",
    "wDHALATHhPTHAHA ABOVEoBELOWoDOTTEDhZQAPHA ABOVEoBELOWoDOTTEDhRBASA ABOVEnBELOW",
    "hDOTTED ZLAMA HORIZONTALuANGULARhHBASA ABOVEnBELOWm-ESASA DOTTEDhESASA ABOVEnBELOWhRWAHA",
    "hFEMININE DOThQUSHSHAYAhRUKKAKHAhTWO VERTICAL DOTS ABOVEzBELOWiHREE DOTS ABOVEsBELOW",
    "hOBLIQUE LINE ABOVEuBELOWhMUSIChBARREKH"]⟩,
  ⟨1869, ["aSYRIAC LETTER SOGDIAN ZHAINwKHAPHwFE",
    "aARABIC LETTER BEH WITH THREE DOTS HORIZONTALLY BELOWxDOT BELOW AND THREE DOTS ABOVE",
    "xTHREE DOTS POINTING UPWARDS BELOWzREE DOTS POINTING UPWARDS BELOW AND TWO DOTS ABOVE",
    "yWO DOTS BELOW AND DOT ABOVExINVERTED SMALL V BELOWxSMALL VoHAH WITH TWO DOTS ABOVE",
    "yHREE DOTS POINTING UPWARDS BELOWoDAL WITH TWO DOTS VERTICALLY BELOW AND SMALL TAH",
    "xINVERTED SMALL V BELOWoREH WITH STROKEoSEEN WITH FOUR DOTS ABOVEoAIN WITH TWO DOTS ABOVE",
    "yHREE DOTS POINTING DOWNWARDS ABOVEyWO DOTS VERTICALLY ABOVEoFEH WITH TWO DOTS BELOW",
    "yHREE DOTS POINTING UPWARDS BELOWoKEHEH WITH DOT ABOVEzTHREE DOTS ABOVE",
    "zTHREE DOTS POINTING UPWARDS BELOWoMEEM WITH DOT ABOVEzOT BELOWoNOON WITH TWO DOTS BELOW",
    "ySMALL TAHzMALL VoLAM WITH BARoREH WITH TWO DOTS VERTICALLY ABOVExHAMZA ABOVE",
    "oSEEN WITH TWO DOTS VERTICALLY ABOVEoHAH WITH SMALL ARABIC LETTER TAH BELOW",
    "zALL ARABIC LETTER TAH AND TWO DOTSoSEEN WITH SMALL ARABIC LETTER TAH AND TWO DOTS",
    "oREH WITH SMALL ARABIC LETTER TAH AND TWO DOTSoHAH WITH SMALL ARABIC LETTER TAH ABOVE",
    "oALEF WITH EXTENDED ARABIC-INDIC DIGIT TWO ABOVEzXTENDED ARABIC-INDIC DIGIT THREE ABOVE",
    "oFARSI YEH WITH EXTENDED ARABIC-INDIC DIGIT TWO ABOVE",
    "zITH EXTENDED ARABIC-INDIC DIGIT THREE ABOVEzITH EXTENDED ARABIC-INDIC DIGIT FOUR BELOW",
    "oWAW WITH EXTENDED ARABIC-INDIC DIGIT TWO ABOVEzTENDED ARABIC-INDIC DIGIT THREE ABOVE",
    "oYEH BARREE WITH EXTENDED ARABIC-INDIC DIGIT TWO ABOVE",
    "zWITH EXTENDED ARABIC-INDIC DIGIT THREE ABOVE",
    "oHAH WITH EXTENDED ARABIC-INDIC DIGIT FOUR BELOW",
    "oSEEN WITH EXTENDED ARABIC-INDIC DIGIT FOUR ABOVEyINVERTED VoKAF WITH TWO DOTS ABOVE",
    "aTHAANA LETTER HAAoSHAVIYANIoNOONUoRAAoBAAoLHAVIYANIoKAAFUoALIFUoVAAVUoMEEMUoFAAFUoDHAALU",
    "oTHAAoLAAMUoGAAFUpNAVIYANIoSEENUoDAVIYANIoZAVIYANIoTAVIYANIoYAAoPAVIYANIoJAVIYANI",
    "oCHAVIYANIoTTAAoHHAAoKHAAoTHAALUoZAAoSHEENUpAADHUoDAADHUoTOoZOoAINUoGHAINUoQAAFUoWAAVU",
    "hABAFILIiABAAFILIhIBIFILIhEEBEEFILIhUBUFILIhOOBOOFILIhEBEFILIiYBEYFILIhOBOFILIiABOAFILI",
    "hSUKUNhLETTER NAA"]⟩,
  ⟨1984, ["aNKO DIGIT ZEROkONEkTWOlHREEkFOURlIVEkSIXlEVENkEIGHTkNINEeLETTER AlEElIlElUlOOm",
    "lDAGBASINNAlNlBAlPAlTAlJAlCHAlDAlRAmRAlSAlGBAlFAlKAlLAlNA WOLOSOlMAlNYAmAlHAlWAlYA",
    "lNYA WOLOSOlJONA JAqCHAqRAeCOMBINING SHORT HIGH TONEuLOW TONEuRISING TONE",
    "oLONG DESCENDING TONEtHIGH TONEtLOW TONEtRISING TONEoNASALIZATION MARKoDOUBLE DOT ABOVE",
    "eHIGH TONE APOSTROPHEeLOW TONE APOSTROPHEeSYMBOL OO DENNENlGBAKURUNENeCOMMA",
    "eEXCLAMATION MARKeLAJANYALAN"]⟩,
  ⟨2045, ["aNKO DANTAYALANfOROME SIGNeTAMAN SIGNaSAMARITAN LETTER ALAFrBITrGAMANrDALATrIYrBAA",
    "rZENrITrTITrYUTrKAAFrLABATrMIMrNUNrSINGAATrINrFIrTSAADIYrQUFrRISHrSHANrTAAFkMARK INr-ALAF",
    "pOCCLUSIONpDAGESHlODIFIER LETTER EPENTHETIC YUTlARK EPENTHETIC YUTkVOWEL SIGN LONG EvE",
    "vOVERLONG AAvLONG AAvAAvOVERLONG AvLONG AvAkMODIFIER LETTER SHORT AkVOWEL SIGN SHORT A",
    "vLONG UvUkMODIFIER LETTER IkVOWEL SIGN LONG IvIvOvSUKUNkMARK NEQUDAA"]⟩,
  ⟨2096, ["aSAMARITAN PUNCTUATION NEQUDAAwAFSAAQxNGEDwBAUwATMAAUwSHIYYAALAAkABBREVIATION MARK",
    "kPUNCTUATION MELODIC QITSAwZIQAAwQITSAwZAEFwTURUwARKAANUwSOF MASHFAATwANNAAU"]⟩,
  ⟨2112, ["aMANDAIC LETTER HALQApABqGqDqHpUSHENNApAZpITpATTqKSArqLqMqNqSpINpAPqSZqQqRqSHqT",
    "pDUSHENNApKADpAINiAFFRICATION MARKiVOCALIZATION MARKiGEMINATION MARK"]⟩,
  ⟨2142, ["aMANDAIC PUNCTUATION"]⟩,
  ⟨2144, ["aSYRIAC LETTER MALAYALAM NGAyJAyNYAyTTAyNNAzNNAyBHAyRAyLLAzLLAySSA"]⟩,
  ⟨2160, ["aARABIC LETTER ALEF WITH ATTACHED FATHAzTTACHED TOP RIGHT FATHAyRIGHT MIDDLE STROKE",
    "yLEFT MIDDLE STROKEyATTACHED KASRAzTTACHED BOTTOM RIGHT KASRAzTTACHED ROUND DOT ABOVE",
    "zTTACHED RIGHT ROUND DOTzTTACHED LEFT ROUND DOTzTTACHED ROUND DOT BELOWyDOT ABOVE",
    "yATTACHED TOP RIGHT FATHA AND DOT ABOVEyRIGHT MIDDLE STROKE AND DOT ABOVE",
    "yATTACHED BOTTOM RIGHT KASRA AND DOT ABOVEzTTACHED TOP RIGHT FATHA AND LEFT RING",
    "yRIGHT MIDDLE STROKE AND LEFT RINGyATTACHED BOTTOM RIGHT KASRA AND LEFT RING",
    "zTTACHED RIGHT HAMZAzTTACHED LEFT HAMZAhTATWEEL WITH OVERSTRUCK HAMZAzTRUCK WAW",
    "uTWO DOTS BELOWhLETTER THIN YEHhBASELINE ROUND DOThRAISED ROUND DOT",
    "hLETTER NOON WITH INVERTED SMALL VoHAH WITH INVERTED SMALL V BELOWoTAH WITH DOT BELOW",
    "xTHREE DOTS BELOWoKEHEH WITH TWO DOTS VERTICALLY BELOWhVERTICAL TAIL"]⟩,
  ⟨2192, ["aARABIC POUND MARK ABOVEiIASTRE MARK ABOVE"]⟩,
  ⟨2200, ["aARABIC SMALL HIGH WORD AL-JUZnLOW WORD ISHMAAMxMAALAwTASHEELhMADDA WAAJIB",
    "hSUPERSCRIPT ALEF MOKHASSAShDOUBLED MADDAhHALF MADDA OVER MADDA",
    "hLETTER BEH WITH SMALL V BELOWxHAMZA ABOVEoJEEM WITH TWO DOTS ABOVE",
    "oTAH WITH TWO DOTS ABOVEoFEH WITH DOT BELOW AND THREE DOTS ABOVEoQAF WITH DOT BELOW",
    "oLAM WITH DOUBLE BARoMEEM WITH THREE DOTS ABOVEoYEH WITH TWO DOTS BELOW AND HAMZA ABOVE",
    "zO DOTS BELOW AND DOT ABOVEoREH WITH LOOPoWAW WITH DOT WITHINoROHINGYA YEHoLOW ALEF",
    "oDAL WITH THREE DOTS BELOWoSAD WITH THREE DOTS BELOWoGAF WITH INVERTED STROKE",
    "oSTRAIGHT WAWoZAIN WITH INVERTED V ABOVEoAIN WITH THREE DOTS BELOWoKAF WITH DOT BELOW",
    "oQAF WITH DOT BELOW AND NO DOTS ABOVEoBEH WITH SMALL MEEM ABOVEoPEH WITH SMALL MEEM ABOVE",
    "oTEH WITH SMALL TEH ABOVEoREH WITH SMALL NOON ABOVE",
    "oYEH WITH TWO DOTS BELOW AND SMALL NOON ABOVEoAFRICAN FEHwQAFwNOONoPEH WITH SMALL V",
    "oTEH WITH SMALL VpTEH WITH SMALL VpCHEH WITH SMALL VoKEHEH WITH SMALL V",
    "oGHAIN WITH THREE DOTS ABOVEoAFRICAN QAF WITH THREE DOTS ABOVEoJEEM WITH THREE DOTS ABOVE",
    "zHREE DOTS BELOWoLAM WITH SMALL ARABIC LETTER TAH ABOVEoGRAFhSMALL FARSI YEH",
    "nHIGH FARSI YEHsYEH BARREE WITH TWO DOTS BELOWsWORD SAHsZAHhLARGE ROUND DOT ABOVExBELOW",
    "hSUKUN BELOWhLARGE CIRCLE BELOWnROUND DOT INSIDE CIRCLE BELOWhSMALL LOW WAW",
    "nHIGH WORD AR-RUBsSADsAINsQAFsNOON WITH KASRAnLOW NOON WITH KASRAnHIGH WORD ATH-THALATHA",
    "yS-SAJDAyN-NISFxSAKTAxQIFxWAQFAsFOOTNOTE MARKERsSIGN SAFHAhDISPUTED END OF AYAH",
    "hTURNED DAMMA BELOWhCURLY FATHAnDAMMAnKASRAnFATHATANnDAMMATANnKASRATANhTONE ONE DOT ABOVE",
    "mTWO DOTS ABOVEmLOOP ABOVEmONE DOT BELOWmTWO DOTS BELOWmLOOP BELOWhOPEN FATHATANmDAMMATAN",
    "mKASRATANhSMALL HIGH WAWhFATHA WITH RINGsDOT ABOVEhKASRA WITH DOT BELOW",
    "hLEFT ARROWHEAD ABOVEhRIGHT ARROWHEAD ABOVEhLEFT ARROWHEAD BELOWhRIGHT ARROWHEAD BELOW",
    "hDOUBLE RIGHT ARROWHEAD ABOVEzHEAD ABOVE WITH DOThRIGHT ARROWHEAD ABOVE WITH DOT",
    "hDAMMA WITH DOThMARK SIDEWAYS NOON GHUNNA"]⟩]

end LineScript.Text
