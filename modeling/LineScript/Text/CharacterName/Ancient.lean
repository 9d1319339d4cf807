import LineScript.Text.CharacterName.Block

/-!
Names of the characters of historic alphabets and syllabaries, of later scripts of South Asia, and
of cuneiform.
-/

namespace LineScript.Text

def ancientNames : Array NameBlock := #[
  ⟨65536, ["aLINEAR B SYLLABLE B008 Au38 Eu28 Iu61 Ou10 Uu01 DAu45 DEu07 DIu14 DOu51 DUv7 JA",
    "u46 JE"]⟩,
  ⟨65549, ["aLINEAR B SYLLABLE B036 JOu65 JUu77 KAu44 KEu67 KIu70 KOu81 KUv0 MAu13 MEu73 MI",
    "u15 MOu23 MUu06 NAu24 NEu30 NIu52 NOv5 NUu03 PAu72 PEu39 PIu11 POu50 PUu16 QAu78 QEu21 QI",
    "u32 QO"]⟩,
  ⟨65576, ["aLINEAR B SYLLABLE B060 RAu27 REu53 RIu02 ROu26 RUu31 SAu09 SEu41 SIu12 SOu58 SU",
    "v9 TAu04 TEu37 TIu05 TOu69 TUu54 WAu75 WEu40 WIv2 WO"]⟩,
  ⟨65596, ["aLINEAR B SYLLABLE B017 ZAu74 ZE"]⟩,
  ⟨65599, ["aLINEAR B SYLLABLE B020 ZOv5 A2u43 A3u85 AUu71 DWEu90 DWOu48 NWAu29 PU2u62 PTE",
    "u76 RA2u33 RA3u68 RO2v6 TA2u87 TWEu91 TWO"]⟩,
  ⟨65616, ["aLINEAR B SYMBOL B018t9s22s34s47t9s56s63t4s79s82t3t6t9"]⟩,
  ⟨65664, ["aLINEAR B IDEOGRAM B100 MANv2 WOMANv4 DEERv5 EQUIDwF MAREwM STALLIONv6F EWEwM RAM",
    "v7F SHE-GOATwM HE-GOATv8F SOWwM BOARv9F COWwM BULLu20 WHEATv1 BARLEYv2 OLIVEv3 SPICE",
    "v5 CYPERUSjMONOGRAM B127 KAPOv8 KANAKOjIDEOGRAM B130 OILv1 WINEv2jMONOGRAM B133 AREPA",
    "v5 MERIjIDEOGRAM B140 BRONZEv1 GOLDv2v5 WOOLv6u50v1 HORNv2v3v4jMONOGRAM B156 TURO2",
    "jIDEOGRAM B157v8v9 CLOTHu60v1v2 GARMENTv3 ARMOURv4v5v6v7v8v9u70v1v2v3 MONTHv4v6 TREEv7v8",
    "v9u80v1v2v3v4v5v9u90v1 HELMETt220 FOOTSTOOLv5 BATHTUBu30 SPEARv1 ARROWv2v3 SWORDv4v6",
    "u40 WHEELED CHARIOTv1 CHARIOTv2 CHARIOT FRAMEv3 WHEELv5v6jMONOGRAM B247 DIPTE",
    "jIDEOGRAM B248v9u51v2v3v4 DARTv5v6v7v8v9sVESSEL B155zB200zB201zB202zB203zB204zB205zB206",
    "zB207zB208zB209zB210zB211zB212zB213zB214zB215zB216zB217zB218zB219zB221zB222zB226zB227",
    "zB228zB229zB250zB305"]⟩,
  ⟨65792, ["aAEGEAN WORD SEPARATOR LINEwDOThCHECK MARK"]⟩,
  ⟨65799, ["aAEGEAN NUMBER ONEoTWOpHREEoFOURpIVEoSIXpEVENoEIGHToNINEoTENpWENTYpHIRTYoFORTY",
    "pIFTYoSIXTYpEVENTYoEIGHTYoNINETYoONE HUNDREDoTWO HUNDREDpHREE HUNDREDoFOUR HUNDRED",
    "pIVE HUNDREDoSIX HUNDREDpEVEN HUNDREDoEIGHT HUNDREDoNINE HUNDREDoONE THOUSAND",
    "oTWO THOUSANDpHREE THOUSANDoFOUR THOUSANDpIVE THOUSANDoSIX THOUSANDpEVEN THOUSAND",
    "oEIGHT THOUSANDoNINE THOUSANDoTEN THOUSANDpWENTY THOUSANDpHIRTY THOUSANDoFORTY THOUSAND",
    "pIFTY THOUSANDoSIXTY THOUSANDpEVENTY THOUSANDoEIGHTY THOUSANDoNINETY THOUSAND"]⟩,
  ⟨65847, ["aAEGEAN WEIGHT BASE UNIToFIRST SUBUNIToSECOND SUBUNIToTHIRD SUBUNIToFOURTH SUBUNIT",
    "hDRY MEASURE FIRST SUBUNIThLIQUID MEASURE FIRST SUBUNIThMEASURE SECOND SUBUNIT",
    "pTHIRD SUBUNITaGREEK ACROPHONIC ATTIC ONE QUARTERzE HALFzE DRACHMAxFIVEzFTYzVE HUNDRED",
    "zVE THOUSANDzFTY THOUSANDzVE TALENTSxTEN TALENTSxFIFTY TALENTSxONE HUNDRED TALENTS",
    "xFIVE HUNDRED TALENTSxONE THOUSAND TALENTSxFIVE THOUSAND TALENTSzVE STATERSxTEN STATERS",
    "xFIFTY STATERSxONE HUNDRED STATERSxFIVE HUNDRED STATERSxONE THOUSAND STATERS",
    "xTEN THOUSAND STATERSxFIFTY THOUSAND STATERSxTEN MNASrHERAEUM ONE PLETHRONrTHESPIAN ONE",
    "rHERMIONIAN ONErEPIDAUREAN TWOrTHESPIAN TWOrCYRENAIC TWO DRACHMASrEPIDAUREAN TWO DRACHMAS",
    "rTROEZENIAN FIVEzAN TENzAN TEN ALTERNATE FORMrHERMIONIAN TENrMESSENIAN TENrTHESPIAN TEN",
    "z THIRTYsROEZENIAN FIFTYzAN FIFTY ALTERNATE FORMrHERMIONIAN FIFTYrTHESPIAN FIFTY",
    "z ONE HUNDREDz THREE HUNDREDrEPIDAUREAN FIVE HUNDREDrTROEZENIAN FIVE HUNDRED",
    "sHESPIAN FIVE HUNDREDrCARYSTIAN FIVE HUNDREDrNAXIAN FIVE HUNDREDrTHESPIAN ONE THOUSAND",
    "z FIVE THOUSANDrDELPHIC FIVE MNASrSTRATIAN FIFTY MNASgONE HALF SIGNt ALTERNATE FORM",
    "gTWO THIRDS SIGNhHREE QUARTERS SIGNgYEAR SIGNgTALENT SIGNgDRACHMA SIGNgOBOL SIGN",
    "gTWO OBOLS SIGNhHREE OBOLS SIGNgFOUR OBOLS SIGNhIVE OBOLS SIGNgMETRETES SIGN",
    "gKYATHOS BASE SIGNgLITRA SIGNgOUNKIA SIGNgXESTES SIGNgARTABE SIGNiOURA SIGNgGRAMMA SIGN",
    "gTRYBLION BASE SIGNgZERO SIGNgONE QUARTER SIGNgSINUSOID SIGNgINDICTION SIGNaNOMISMA SIGN"]⟩,
  ⟨65936, ["aROMAN SEXTANS SIGNgUNCIA SIGNgSEMUNCIA SIGNiXTULA SIGNgDIMIDIA SEXTULA SIGN",
    "gSILIQUA SIGNgDENARIUS SIGNgQUINARIUS SIGNgSESTERTIUS SIGNgDUPONDIUS SIGNgAS SIGN",
    "gCENTURIAL SIGNaASCIA SYMBOL"]⟩,
  ⟨65952, ["aGREEK SYMBOL TAU RHO"]⟩,
  ⟨66000, ["aPHAISTOS DISC SIGN PEDESTRIANuLUMED HEADtTATTOOED HEADtCAPTIVEuHILDtWOMANtHELMET",
    "tGAUNTLETtTIARAtARROWtBOWtSHIELDtCLUBtMANACLESvTTOCKtSAWtLIDtBOOMERANGtCARPENTRY PLANE",
    "tDOLIUMtCOMBtSLINGtCOLUMNtBEEHIVEtSHIPtHORNuIDEtBULLS LEGtCATtRAMtEAGLEtDOVEtTUNNYtBEE",
    "tPLANE TREEtVINEtPAPYRUStROSETTEtLILYtOX BACKtFLUTEtGRATERtSTRAINERuMALL AXEtWAVY BAND",
    "tCOMBINING OBLIQUE STROKE"]⟩,
  ⟨66176, ["aLYCIAN LETTER AoEoBpHoGoDoIoWoZoTHoJoKoQoLoMoNoMMoNNoUoPoKKoRoSoTpToANoENoHoX"]⟩,
  ⟨66208, ["aCARIAN LETTER AoP2oDoLoUUUoRoLDoA2oQoBoMoOoD2oToSHq2poC-18oUoNNoXoNoTT2oPoSSoIoE",
    "oUUUUoKp2oNDoUUoGp2oSTq2oNGoIIoC-39oTToUUU2oRRoMBq2q3q4oLD2oE2oUUU3"]⟩,
  ⟨66272, ["aCOPTIC EPACT THOUSANDS MARKnDIGIT ONEtTWOuHREEtFOURuIVEtSIXuEVENtEIGHTtNINE",
    "nNUMBER TENvWENTYvHIRTYuFORTYvIFTYuSIXTYvEVENTYuEIGHTYuNINETYuONE HUNDREDuTWO HUNDRED",
    "vHREE HUNDREDuFOUR HUNDREDvIVE HUNDREDuSIX HUNDREDvEVEN HUNDREDuEIGHT HUNDRED",
    "uNINE HUNDRED"]⟩,
  ⟨66304, ["aOLD ITALIC LETTER AsBEsKEsDEsEsVEsZEsHEsTHEsIsKAsELtMtNtSHsOsPEsSHEsKUsERtSsTEsU",
    "sEKSsPHEsKHEsEFtRSsCHEsIIsUUsESSlNUMERAL ONEtFIVEtTENtFIFTY"]⟩,
  ⟨66349, ["aOLD ITALIC LETTER YEsNORTHERN TSEsSOUTHERN TSEaGOTHIC LETTER AHSAoBAIRKANoGIBA",
    "oDAGSoAIHVUSoQAIRTHRAoIUJAoHAGLoTHIUTHoEISoKUSMAoLAGUSoMANNAoNAUTHSoJERoURUSoPAIRTHRA",
    "oNINETYoRAIDAoSAUILoTEIWSoWINJAoFAIHUoIGGWSoHWAIRoOTHALoNINE HUNDRED"]⟩,
  ⟨66384, ["aOLD PERMIC LETTER ANsBURsGAIsDOIsEsZHOIsDZHOIsZATAsDZITAsIsKOKEsLEIsMENOEsNENOE",
    "sVOOIsPEEIsREIsSIIsTAIsUsCHERYsSHOOIuCHOOIsYRYtERUsOtOsEFsHAsTSIUsVERsYERvItATsIEsYUtAsIA",
    "aCOMBINING OLD PERMIC LETTER ANzER DOIzER ZATAzER NENOEzER SII"]⟩,
  ⟨66432, ["aUGARITIC LETTER ALPAqBETAqGAMLAqKHAqDELTAqHOqWOqZETAqHOTAqTETqYODqKAFqSHINqLAMDA",
    "qMEMqDHALqNUNqZUqSAMKAqAINqPUqSADEqQOPAqRASHAqTHANNAqGHAINqTOqIqUqSSU"]⟩,
  ⟨66463, ["aUGARITIC WORD DIVIDERaOLD PERSIAN SIGN ArIrUrKAsUrGAsUrXArCArJAsIrTAsUrDAsIsUrTHA",
    "rPArBArFArNAsUrMAsIsUrYArVAsIrRAsUrLArSArZArSHAsSArHA"]⟩,
  ⟨66504, ["aOLD PERSIAN SIGN AURAMAZDAAzAA-2zAAHArXSHAAYATHIYArDAHYAAUSHzH-2rBAGAsUUMISH",
    "mWORD DIVIDERmNUMBER ONEtTWOuENuWENTYtHUNDRED"]⟩,
  ⟨66560, ["aDESERET CAPITAL LETTER LONG IzNG EzNG AzNG AHzNG OzNG OOxSHORT IzORT EzORT A",
    "zORT AHzORT OzORT OOxAYxOWxWUxYEExHxPEExBEExTEExDEExCHEExJEExKAYxGAYxEFxVEExETHxTHEExES",
    "xZEExESHxZHEExERyLyMyNzGxOIxEWiSMALL LETTER LONG Iz Ez Az AHz Oz OOvSHORT IzT EzT AzT AH",
    "zT OzT OOvAYvOWvWUvYEEvHvPEEvBEEvTEEvDEEvCHEEvJEEvKAYvGAYvEFvVEEvETHvTHEEvESvZEEvESHvZHEE",
    "vERwLwMwNxGvOIvEWaSHAVIAN LETTER PEEPpTOTpKICKpFEEpTHIGHpSOqUREpCHURCHpYEApHUNGpBIBpDEAD",
    "pGAGpVOWpTHEYpZOOpMEASUREpJUDGEpWOEpHA-HApLOLLpMIMEpIFpEGGpASHqDOpONpWOOLpOUTpAHpROARpNUN",
    "pEATpAGEpICEpUPpOAKqOZEqILpAWEqREpORpAIRpERRpARRAYpEARpIANpYEWaOSMANYA LETTER ALEFpBApTA",
    "pJApXApKHApDEELpRApSAqHIINpDHApCAYNpGApFApQAAFpKAAFpLAANpMIINpNUUNpWAWpHApYApApEpIpOpUpAA",
    "pEEpOO"]⟩,
  ⟨66720, ["aOSMANYA DIGIT ZEROoONEoTWOpHREEoFOURpIVEoSIXpEVENoEIGHToNINE"]⟩,
  ⟨66736, ["aOSAGE CAPITAL LETTER AwIxNwHvBRAvCHAvEHCHAwwINvHAwYAvIvKAvEHKAvKYAvLAvMAvNAvOwIN",
    "vPAvEHPAvSAwHAvTAvEHTAvTSAvEHTSAvTSHAvDHAvUvWAvKHAvGHAvZAwHA"]⟩,
  ⟨66776, ["aOSAGE SMALL LETTER AuIvNuHtBRAtCHAtEHCHAuuINtHAuYAtItKAtEHKAtKYAtLAtMAtNAtOuINtPA",
    "tEHPAtSAuHAtTAtEHTAtTSAtEHTSAtTSHAtDHAtUtWAtKHAtGHAtZAuHA"]⟩,
  ⟨66816, ["aELBASAN LETTER ApBEpCEqHEpDEpNDEpDHEpEIqpFEpGEqJEpHEpIpJEpKEpLEqLEpMEpNEqAqJEpO",
    "pPEpQEpREqREpSEqHEpTEqHEpUpVEpXEpYpZEqHEpGHErAMMApKHE"]⟩,
  ⟨66864, ["aCAUCASIAN ALBANIAN LETTER ALTz BETz GIMz DATz EBz ZARLz EYNz ZHILz TASz CHAz YOWD",
    "z ZHAz IRBz SHAz LANz INYAz XEYNz DYANz CARz JHOXz KARz LYITz HEYTz QAYz AORz CHOYz CHI",
    "z CYAYz MAQz QARz NOWCz DZYAYz SHAKz JAYNz ONz TYAYz FAMz DZAYz CHATz PENz GHEYSz RAT",
    "z SEYKz VEYZz TIWRz SHOYz IWNz CYAWz CAYNz YAYDz PIWRz KIW"]⟩,
  ⟨66927, ["aCAUCASIAN ALBANIAN CITATION MARKaVITHKUQI CAPITAL LETTER AyBBEzEyCEzHEyDEzHEyEIz",
    "yFEyGA"]⟩,
  ⟨66940, ["aVITHKUQI CAPITAL LETTER HAzHAyIzJEyJEyKAyLAzLAyMEyNEzJEyOyPEyQAyRE"]⟩,
  ⟨66956, ["aVITHKUQI CAPITAL LETTER SEzHEyTEzHEyUyVEyXE"]⟩,
  ⟨66964, ["aVITHKUQI CAPITAL LETTER YyZE"]⟩,
  ⟨66967, ["aVITHKUQI SMALL LETTER AwBBExEwCExHEwDExHEwEIxwFEwGA"]⟩,
  ⟨66979, ["aVITHKUQI SMALL LETTER HAxHAwIxJEwJEwKAwLAxLAwMEwNExJEwOwPEwQAwRE"]⟩,
  ⟨66995, ["aVITHKUQI SMALL LETTER SExHEwTExHEwUwVEwXE"]⟩,
  ⟨67003, ["aVITHKUQI SMALL LETTER YwZE"]⟩,
  ⟨67072, ["aLINEAR A SIGN AB001s2s3s4s5s6s7s8s9r10s1s3s6s7r20s1tFtMs2tFtMs3tMs4s6s7s8p028B",
    "pB029r30s1s4s7s8s9r40s1s4s5s6s7s8s9r50s1s3s4s5s6s7s8s9r60s1s5s6s7s9r70s3s4s6s7s8s9r80s1s2",
    "s5s6s7p100-102pB118r20p120BpB122s3r31AtBp131CpB164r71r80s8r91p301r2r3r4r5r6r7r8r9AsBsCq10",
    "r1r2r3AsBsCr4r5r6r7r8r9q20r1r2r3r4r5r6r7r8r9q30r1r2r3r4r5r6r7r8r9q40r1r2r3r4r5r6r7r8r9q50",
    "r1r2r3r4r5r6r7r8r9q60r1r2r3r4r5r6r7r8r9q70r1p400-VASr1-VASr2-VASr3-VASr4-VASr5-VASr6-VAS",
    "r7-VASr8-VASr9-VASq10-VASr1-VASr2-VASr3-VASr4-VASr5-VASr6-VASr7-VASr8-VASp501r2r3r4r5r6r8",
    "r9q10r1r2r3r5r6q20r1r3r4r5r6r7r8r9q30r1r2r4r5r6r7r8r9q40r1r2r5r7r8r9q50r1r2r3r4r5r6r7r9",
    "q63r4r5r6r8r9q70r1r2r3r4r5r6r7r8r9q80r1r2r3r4r5r6r7r8r9q91r2r4r5r6r8p600r1r2r3r4r6r8r9q10",
    "r1r2r3r4r5r6r7r8r9q20r1r2r3r4r6r7r8r9q34r7r8q40r2r3r4r5r6r8r9q51r2r3r4r5r6r7r8r9q60r1r2r3",
    "r4"]⟩,
  ⟨67392, ["aLINEAR A SIGN A701 Ar2 Br3 Dr4 Er5 Fr6 Hr7 Jr8 Kr9 Ls-2 L2t3 L3t4 L4t6 L6q10 W",
    "r1 Xr2 Yr3 OMEGAr4 ABBr5 BBr7 DDq26 EYYYq32 JE"]⟩,
  ⟨67424, ["aLINEAR A SIGN A800r1r2r3r4r5r6r7"]⟩,
  ⟨67456, ["aMODIFIER LETTER SMALL CAPITAL AArUPERSCRIPT TRIANGULAR COLON",
    "zPT HALF TRIANGULAR COLONrMALL AEwCAPITAL BwB WITH HOOK"]⟩,
  ⟨67463, ["aMODIFIER LETTER SMALL DZ DIGRAPHzDIGRAPH WITH RETROFLEX HOOKzDIGRAPH WITH CURL",
    "xEZH DIGRAPHx WITH TAILzITH HOOKzITH HOOK AND TAILwREVERSED EwCLOSED REVERSED OPEN E",
    "wFENG DIGRAPHwRAMS HORNwCAPITAL GwG WITH HOOKwCAPITAL G WITH HOOKwH WITH STROKEwCAPITAL H",
    "wHENG WITH HOOKwDOTLESS J WITH STROKE AND HOOKwLS DIGRAPHxZ DIGRAPHx WITH BELT",
    "wCAPITAL L WITH BELTwL WITH RETROFLEX HOOK AND BELTxEZHzH WITH RETROFLEX HOOKwTURNED Y",
    "zNED Y WITH BELTwO WITH STROKEwCAPITAL OExLOSED OMEGAwQwTURNED R WITH LONG LEG",
    "zNED R WITH LONG LEG AND RETROFLEX HOOKwR WITH TAILzITH FISHHOOKwCAPITAL R",
    "wTC DIGRAPH WITH CURLxS DIGRAPHzDIGRAPH WITH RETROFLEX HOOKxESH DIGRAPH",
    "x WITH RETROFLEX HOOKwV WITH RIGHT HOOK"]⟩,
  ⟨67506, ["aMODIFIER LETTER SMALL CAPITAL YqGLOTTAL STOP WITH STROKE",
    "qREVERSED GLOTTAL STOP WITH STROKEqBILABIAL CLICKqDENTAL CLICKqLATERAL CLICK",
    "qALVEOLAR CLICKqRETROFLEX CLICK WITH RETROFLEX HOOKqSMALL S WITH CURL"]⟩,
  ⟨67584, ["aCYPRIOT SYLLABLE ArErIrOrUrJA"]⟩,
  ⟨67592, ["aCYPRIOT SYLLABLE JO"]⟩,
  ⟨67594, ["aCYPRIOT SYLLABLE KAsEsIsOsUrLAsEsIsOsUrMAsEsIsOsUrNAsEsIsOsUrPAsEsIsOsUrRAsEsIsO",
    "sUrSAsEsIsOsUrTAsEsIsOsUrWAsEsIsO"]⟩,
  ⟨67639, ["aCYPRIOT SYLLABLE XAsE"]⟩,
  ⟨67644, ["aCYPRIOT SYLLABLE ZA"]⟩,
  ⟨67647, ["aCYPRIOT SYLLABLE ZOaIMPERIAL ARAMAIC LETTER ALEPHyBETHyGIMELyDALETHyHEyWAWyZAYIN",
    "yHETHyTETHyYODHyKAPHyLAMEDHyMEMyNUNySAMEKHyAYINyPEySADHEyQOPHyRESHySHINyTAW"]⟩,
  ⟨67671, ["aIMPERIAL ARAMAIC SECTION SIGNrNUMBER ONEyTWOzHREEzENzWENTYyONE HUNDRED",
    "zNE THOUSANDyTEN THOUSANDaPALMYRENE LETTER ALEPHrBETHrGIMELrDALETHrHErWAWrZAYINrHETHrTETH",
    "rYODHrKAPHrLAMEDHrMEMrFINAL NUNrNUNrSAMEKHrAYINrPErSADHErQOPHrRESHrSHINrTAW",
    "mFT-POINTING FLEURONkRIGHT-POINTING FLEURONkNUMBER ONErTWOsHREErFOURsIVErTENsWENTY",
    "aNABATAEAN LETTER FINAL ALEPHrALEPHrFINAL BETHrBETHrGIMELrDALETHrFINAL HErHErWAWrZAYIN",
    "rHETHrTETHrFINAL YODHrYODHrFINAL KAPHrKAPHrFINAL LAMEDHrLAMEDHrFINAL MEMrMEMrFINAL NUN",
    "rNUNrSAMEKHrAYINrPErSADHErQOPHrRESHrFINAL SHINrSHINrTAW"]⟩,
  ⟨67751, ["aNABATAEAN NUMBER ONErTWOsHREErFOURkCRUCIFORM NUMBER FOURkNUMBER FIVErTENsWENTY",
    "rONE HUNDRED"]⟩,
  ⟨67808, ["aHATRAN LETTER ALEPHoBETHoGIMELoDALETH-RESHoHEoWAWoZAYNoHETHoTETHoYODHoKAPHoLAMEDH",
    "oMEMoNUNoSAMEKHoAYNoPEoSADHEoQOPH"]⟩,
  ⟨67828, ["aHATRAN LETTER SHINoTAW"]⟩,
  ⟨67835, ["aHATRAN NUMBER ONEoFIVEoTENpWENTYoONE HUNDREDaPHOENICIAN LETTER ALFsBETsGAMLsDELT",
    "sHEsWAUsZAIsHETsTETsYODsKAFsLAMDsMEMsNUNsSEMKsAINsPEsSADEsQOFsROSHsSHINsTAUlNUMBER ONE",
    "sTENtWENTYsONE HUNDREDsTWOtHREE"]⟩,
  ⟨67871, ["aPHOENICIAN WORD SEPARATORaLYDIAN LETTER AoBoGoDoEoVoIoYoKoLoMoNoOoRoSSoToUoFoQoS",
    "oTToANoENoLYoNNoC"]⟩,
  ⟨67903, ["aLYDIAN TRIANGULAR MARK"]⟩,
  ⟨67968, ["aMEROITIC HIEROGLYPHIC LETTER AzTER EzTER IzTER OzTER YAzTER WAzTER BAzTER BA-2",
    "zTER PAzTER MAzTER NAzTER NA-2zTER NEzTER NE-2zTER RAzTER RA-2zTER LAzTER KHAzTER HHA",
    "zTER SAzTER SA-2zTER SEzTER KAzTER QAzTER TAzTER TA-2zTER TEzTER TE-2zTER TOzTER DA",
    "wSYMBOL VIDJzBOL VIDJ-2jCURSIVE LETTER AyEyIyOyYAyWAyBAyPAyMAyNAzEyRAyLAyKHAyHHAySA",
    "yARCHAIC SAySEyKAyQAyTAzEzOyDA"]⟩,
  ⟨68028, ["aMEROITIC CURSIVE FRACTION ELEVEN TWELFTHSz ONE HALFrLOGOGRAM RMTz IMNrNUMBER ONE",
    "yTWOzHREEyFOURzIVEySIXzEVENyEIGHTyNINEyTENzWENTYzHIRTYyFORTYzIFTYySIXTYzEVENTY"]⟩,
  ⟨68050, ["aMEROITIC CURSIVE NUMBER ONE HUNDREDyTWO HUNDREDzHREE HUNDREDyFOUR HUNDRED",
    "zIVE HUNDREDySIX HUNDREDzEVEN HUNDREDyEIGHT HUNDREDyNINE HUNDREDyONE THOUSAND",
    "yTWO THOUSANDzHREE THOUSANDyFOUR THOUSANDzIVE THOUSANDySIX THOUSANDzEVEN THOUSAND",
    "yEIGHT THOUSANDyNINE THOUSANDyTEN THOUSANDzWENTY THOUSANDzHIRTY THOUSANDyFORTY THOUSAND",
    "zIFTY THOUSANDySIXTY THOUSANDzEVENTY THOUSANDyEIGHTY THOUSANDyNINETY THOUSAND",
    "yONE HUNDRED THOUSANDyTWO HUNDRED THOUSANDzHREE HUNDRED THOUSANDyFOUR HUNDRED THOUSAND",
    "zIVE HUNDRED THOUSANDySIX HUNDRED THOUSANDzEVEN HUNDRED THOUSANDyEIGHT HUNDRED THOUSAND",
    "yNINE HUNDRED THOUSANDrFRACTION ONE TWELFTHz TWO TWELFTHSz THREE TWELFTHSz FOUR TWELFTHS",
    "z FIVE TWELFTHSz SIX TWELFTHSz SEVEN TWELFTHSz EIGHT TWELFTHSz NINE TWELFTHS",
    "z TEN TWELFTHSaKHAROSHTHI LETTER AlVOWEL SIGN IwUwVOCALIC R"]⟩,
  ⟨68101, ["aKHAROSHTHI VOWEL SIGN EwO"]⟩,
  ⟨68108, ["aKHAROSHTHI VOWEL LENGTH MARKlSIGN DOUBLE RING BELOWqANUSVARAqVISARGAlLETTER KAtHA",
    "sGAtHA"]⟩,
  ⟨68117, ["aKHAROSHTHI LETTER CAtHAsJA"]⟩,
  ⟨68121, ["aKHAROSHTHI LETTER NYAsTTAuHAsDDAuHAsNNAsTAtHAsDAtHAsNAsPAtHAsBAtHAsMAsYAsRAsLAsVA",
    "sSHAtSAtAsZAsHAsKKAsTTTHAvAsVHA"]⟩,
  ⟨68152, ["aKHAROSHTHI SIGN BAR ABOVEqCAUDAqDOT BELOW"]⟩,
  ⟨68159, ["aKHAROSHTHI VIRAMAlDIGIT ONErTWOsHREErFOURlNUMBER TENtWENTYsONE HUNDREDwTHOUSAND",
    "lFRACTION ONE HALF"]⟩,
  ⟨68176, ["aKHAROSHTHI PUNCTUATION DOTxSMALL CIRCLExCIRCLEyRESCENT BARxMANGALAMxLOTUSxDANDA",
    "yOUBLE DANDAxLINES"]⟩,
  ⟨68192, ["aOLD SOUTH ARABIAN LETTER HEzLAMEDHzHETHzMEMzQOPHzWAWzSHINzRESHzBETHzTAWzSATzKAPH",
    "zNUNzKHETHzSADHEzSAMEKHzFEzALEFzAYNzDHADHEzGIMELzDALETHzGHAYNzTETHzZAYNzDHALETHzYODHzTHAW",
    "zTHETHsNUMBER ONEzFIFTYvERIC INDICATOReNORTH ARABIAN LETTER HEHzLAMzHAHzMEEMzQAFzWAWzES-2",
    "zREHzBEHzTEHzES-1zKAFzNOONzKHAHzSADzES-3zFEHzALEFzAINzDADzGEEMzDALzGHAINzTAHzZAINzTHAL",
    "zYEHzTHEHzZAHsNUMBER ONEzTENzTWENTY"]⟩,
  ⟨68288, ["aMANICHAEAN LETTER ALEPHsBETHtHETHsGIMELtHIMELsDALETHsHEsWAWlSIGN UDlLETTER ZAYIN",
    "tHAYINsJAYINtHAYINsHETHsTETHsYODHsKAPHsXAPHsKHAPHsLAMEDHsDHAMEDHsTHAMEDHsMEMsNUNsSAMEKH",
    "sAYINtAYINsPEsFEsSADHEsQOPHsXOPHsQHOPHsRESHsSHINtSHINsTAWlABBREVIATION MARK ABOVE",
    "zARK BELOW"]⟩,
  ⟨68331, ["aMANICHAEAN NUMBER ONEsFIVEsTENtWENTYsONE HUNDREDlPUNCTUATION STARxFLEURON",
    "xDOUBLE DOT WITHIN DOTzT WITHIN DOTzTxTWO DOTSxLINE FILLER"]⟩,
  ⟨68352, ["aAVESTAN LETTER AqAqOqAOqNqANqErEpEqEpOqOpIqIpUqUpKEpXEqYEqVEpGEqGEqHEpCEpJEpTEqHE",
    "pDEqHEpTTEpPEpFEpBEqHEpNGErYErVEqEqYEqNEpMEpHMEpYYEqEpVEpREpLEpSEpZEpSHEpZHEpSHYEqSHEpHE"]⟩,
  ⟨68409, ["aAVESTAN ABBREVIATION MARKaTINY TWO DOTS OVER ONE DOT PUNCTUATION",
    "aSMALL TWO DOTS OVER ONE DOT PUNCTUATIONaLARGE TWO DOTS OVER ONE DOT PUNCTUATION",
    "gONE DOT OVER TWO DOTS PUNCTUATIONgTWO RINGS OVER ONE RING PUNCTUATION",
    "gONE RING OVER TWO RINGS PUNCTUATIONaINSCRIPTIONAL PARTHIAN LETTER ALEPHzTTER BETH",
    "zTTER GIMELzTTER DALETHzTTER HEzTTER WAWzTTER ZAYINzTTER HETHzTTER TETHzTTER YODH",
    "zTTER KAPHzTTER LAMEDHzTTER MEMzTTER NUNzTTER SAMEKHzTTER AYINzTTER PEzTTER SADHE",
    "zTTER QOPHzTTER RESHzTTER SHINzTTER TAW"]⟩,
  ⟨68440, ["aINSCRIPTIONAL PARTHIAN NUMBER ONEzMBER TWOzMBER THREEzMBER FOURzMBER TEN",
    "zMBER TWENTYzMBER ONE HUNDREDzMBER ONE THOUSANDqHLAVI LETTER ALEPHzTER BETHzTER GIMEL",
    "zTER DALETHzTER HEzTER WAW-AYIN-RESHzTER ZAYINzTER HETHzTER TETHzTER YODHzTER KAPH",
    "zTER LAMEDHzTER MEM-QOPHzTER NUNzTER SAMEKHzTER PEzTER SADHEzTER SHINzTER TAW"]⟩,
  ⟨68472, ["aINSCRIPTIONAL PAHLAVI NUMBER ONEzBER TWOzBER THREEzBER FOURzBER TENzBER TWENTY",
    "zBER ONE HUNDREDzBER ONE THOUSANDaPSALTER PAHLAVI LETTER ALEPHxBETHxGIMELxDALETHxHE",
    "xWAW-AYIN-RESHxZAYINxHETHxYODHxKAPHxLAMEDHxMEM-QOPHxNUNxSAMEKHxPExSADHEyHINxTAW"]⟩,
  ⟨68505, ["aPSALTER PAHLAVI SECTION MARKqTURNED SECTION MARKqFOUR DOTS WITH CROSSz WITH DOT"]⟩,
  ⟨68521, ["aPSALTER PAHLAVI NUMBER ONExTWOyHREExFOURxTENyWENTYxONE HUNDRED"]⟩,
  ⟨68608, ["aOLD TURKIC LETTER ORKHON AsYENISEI Az AEsORKHON IsYENISEI Iz EsORKHON OzOE",
    "sYENISEI OEsORKHON ABsYENISEI ABsORKHON AEBsYENISEI AEBsORKHON AGsYENISEI AGsORKHON AEG",
    "sYENISEI AEGsORKHON ADsYENISEI ADsORKHON AEDzEZsYENISEI EZsORKHON AYsYENISEI AY",
    "sORKHON AEYsYENISEI AEYsORKHON AEKsYENISEI AEKsORKHON OEKsYENISEI OEKsORKHON AL",
    "sYENISEI ALsORKHON AELzELTzEMzANzAENsYENISEI AENsORKHON ENTsYENISEI ENTsORKHON ENC",
    "sYENISEI ENCsORKHON ENYsYENISEI ENYz ANGsORKHON ENGsYENISEI AENGsORKHON EPzOPzICzEC",
    "sYENISEI ECsORKHON AQsYENISEI AQsORKHON IQsYENISEI IQsORKHON OQsYENISEI OQsORKHON AR",
    "sYENISEI ARsORKHON AERzASzAESzASHsYENISEI ASHsORKHON ESHsYENISEI ESHsORKHON ATsYENISEI AT",
    "sORKHON AETsYENISEI AETsORKHON OTzBASH"]⟩,
  ⟨68736, ["aOLD HUNGARIAN CAPITAL LETTER AzTER AAzTER EBzTER AMBzTER ECzTER ENCzTER ECS",
    "zTER EDzTER ANDzTER EzTER CLOSE EzTER EEzTER EFzTER EGzTER EGYzTER EHzTER IzTER IIzTER EJ",
    "zTER EKzTER AKzTER UNKzTER ELzTER ELYzTER EMzTER ENzTER ENYzTER OzTER OO",
    "zTER NIKOLSBURG OEzTER RUDIMENTA OEzTER OEEzTER EPzTER EMPzTER ERzTER SHORT ERzTER ES",
    "zTER ESZzTER ETzTER ENTzTER ETYzTER ECHzTER UzTER UUzTER NIKOLSBURG UEzTER RUDIMENTA UE",
    "zTER EVzTER EZzTER EZSzTER ENT-SHAPED SIGNzTER US"]⟩,
  ⟨68800, ["aOLD HUNGARIAN SMALL LETTER AzR AAzR EBzR AMBzR ECzR ENCzR ECSzR EDzR ANDzR E",
    "zR CLOSE EzR EEzR EFzR EGzR EGYzR EHzR IzR IIzR EJzR EKzR AKzR UNKzR ELzR ELYzR EMzR EN",
    "zR ENYzR OzR OOzR NIKOLSBURG OEzR RUDIMENTA OEzR OEEzR EPzR EMPzR ERzR SHORT ERzR ES",
    "zR ESZzR ETzR ENTzR ETYzR ECHzR UzR UUzR NIKOLSBURG UEzR RUDIMENTA UEzR EVzR EZzR EZS",
    "zR ENT-SHAPED SIGNzR US"]⟩,
  ⟨68858, ["aOLD HUNGARIAN NUMBER ONEvFIVEvTENvFIFTYvONE HUNDREDzTHOUSAND",
    "aHANIFI ROHINGYA LETTER AxBAxPAxTAyTAxJAxCAxHAxKHAxFAxDAyDAxRAyRAxZAxSAyHAxKAxGAxLAxMAxNA",
    "xWAxKINNA WAxYAxKINNA YAxNGAyYAxVAqVOWEL AwIwUwEwOqMARK SAKINvNA KHONNAqSIGN HARBAHAY",
    "vTAHALAxNAxSSI"]⟩,
  ⟨68912, ["aHANIFI ROHINGYA DIGIT ZEROwONEwTWOxHREEwFOURxIVEwSIXxEVENwEIGHTwNINE"]⟩,
  ⟨69216, ["aRUMI DIGIT ONElTWOmHREElFOURmIVElSIXmEVENlEIGHTlNINEfNUMBER TENnWENTYnHIRTYmFORTY",
    "nIFTYmSIXTYnEVENTYmEIGHTYmNINETYmONE HUNDREDmTWO HUNDREDnHREE HUNDREDmFOUR HUNDRED",
    "nIVE HUNDREDmSIX HUNDREDnEVEN HUNDREDmEIGHT HUNDREDmNINE HUNDREDfFRACTION ONE HALF",
    "sQUARTERsTHIRDoTWO THIRDS"]⟩,
  ⟨69248, ["aYEZIDI LETTER ELIFoBEoPEpHEoTHEoSEoCIMpHIMqHIMoHHAoXAoDALoZALoRApHAoZAoJAoSINpHIN",
    "pADoDADoTAoZEoEYNoXHEYNoFAoVAq ALTERNATE FORMoQAFoKAFpHAFoGAFoLAMoMIMoNUNoUMoWAWoOWoEW",
    "oHAYoYOToET"]⟩,
  ⟨69291, ["aYEZIDI COMBINING HAMZA MARKrMADDA MARKhHYPHENATION MARK"]⟩,
  ⟨69296, ["aYEZIDI LETTER LAM WITH DOT ABOVEoYOT WITH CIRCUMFLEX ABOVE"]⟩,
  ⟨69376, ["aOLD SOGDIAN LETTER ALEPHtFINAL ALEPHtBETHtFINAL BETHtGIMELtHEtFINAL HEtWAWtZAYIN",
    "tHETHtYODHtKAPHtLAMEDHtMEMtNUNtFINAL NUNzNUN WITH VERTICAL TAILtSAMEKHtAYINuLTERNATE AYIN",
    "tPEtSADHEtFINAL SADHEzSADHE WITH VERTICAL TAILtRESH-AYIN-DALETHtSHINtTAWtFINAL TAW",
    "zTAW WITH VERTICAL TAILmNUMBER ONEtTWOuHREEtFOURuIVEtTENuWENTYuHIRTYtONE HUNDRED",
    "mFRACTION ONE HALFmLIGATURE AYIN-DALETH"]⟩,
  ⟨69424, ["aSOGDIAN LETTER ALEPHpBETHpGIMELpHEpWAWpZAYINpHETHpYODHpKAPHpLAMEDHpMEMpNUNpSAMEKH",
    "pAYINpPEpSADHEpRESH-AYINpSHINpTAWpFETHpLESHiINDEPENDENT SHINiCOMBINING DOT BELOW",
    "sTWO DOTS BELOWsDOT ABOVEsTWO DOTS ABOVEsCURVE ABOVEyBELOWsHOOK ABOVExBELOW",
    "sLONG HOOK BELOWsRESH BELOWsSTROKE BELOWiNUMBER ONEpTENqWENTYpONE HUNDRED",
    "iPUNCTUATION TWO VERTICAL BARSzERTICAL BARS WITH DOTSuCIRCLE WITH DOT",
    "uTWO CIRCLES WITH DOTSuHALF CIRCLE WITH DOT"]⟩,
  ⟨69488, ["aOLD UYGHUR LETTER ALEPHsBETHsGIMEL-HETHsWAWsZAYINsFINAL HETHsYODHsKAPHsLAMEDHsMEM",
    "sNUNsSAMEKHsPEsSADHEsRESHsSHINsTAWsLESHlCOMBINING DOT ABOVEzBELOWvTWO DOTS ABOVE",
    "zDOTS BELOWlPUNCTUATION BARxTWO BARSzO DOTSxFOUR DOTS"]⟩,
  ⟨69552, ["aCHORASMIAN LETTER ALEPHsSMALL ALEPHsBETHsGIMELsDALETHsHEsWAWsCURLED WAWsZAYIN",
    "sHETHsYODHsKAPHsLAMEDHsMEMsNUNsSAMEKHsAYINsPEsRESHsSHINsTAWlNUMBER ONEsTWOtHREEsFOURsTEN",
    "tWENTYsONE HUNDRED"]⟩,
  ⟨69600, ["aELYMAIC LETTER ALEPHpBETHpGIMELpDALETHpHEpWAWpZAYINpHETHpTETHpYODHpKAPHpLAMEDH",
    "pMEMpNUNpSAMEKHpAYINpPEpSADHEpQOPHpRESHpSHINpTAWjIGATURE ZAYIN-YODH"]⟩,
  ⟨69632, ["aBRAHMI SIGN CANDRABINDUmANUSVARAmVISARGAmJIHVAMULIYAmUPADHMANIYAhLETTER ApAoIpIoU",
    "pUoVOCALIC RxRwLxLoEoAIoOoAUoKApHAoGApHAoNGAoCApHAoJApHAoNYAoTTAqHAoDDAqHAoNNAoTApHAoDA",
    "pHAoNAoPApHAoBApHAoMAoYAoRAoLAoVAoSHApSApAoHAoLLAoOLD TAMIL LLLAyRRAyNNNAhVOWEL SIGN AA",
    "sBHATTIPROLU AAsItIsUtUsVOCALIC Rz RRz Lz LLsEsAIsOsAUiIRAMAhDANDAiOUBLE DANDA",
    "hPUNCTUATION DOTvUBLE DOTtLINEtCRESCENT BARtLOTUS"]⟩,
  ⟨69714, ["aBRAHMI NUMBER ONEoTWOpHREEoFOURpIVEoSIXpEVENoEIGHToNINEoTENpWENTYpHIRTYoFORTY",
    "pIFTYoSIXTYpEVENTYoEIGHTYoNINETYoONE HUNDREDsTHOUSANDhDIGIT ZEROnONEnTWOoHREEnFOURoIVE",
    "nSIXoEVENnEIGHTnNINEhSIGN OLD TAMIL VIRAMAhLETTER OLD TAMIL SHORT EzHORT O",
    "hVOWEL SIGN OLD TAMIL SHORT EzIL SHORT OhLETTER OLD TAMIL LLA"]⟩,
  ⟨69759, ["aBRAHMI NUMBER JOINERaKAITHI SIGN CANDRABINDUmANUSVARAmVISARGAhLETTER ApAoIpIoUpU",
    "oEoAIoOoAUoKApHAoGApHAoNGAoCApHAoJApHAoNYAoTTAqHAoDDAqDHAqHAoRHAoNNAoTApHAoDApHAoNAoPApHA",
    "oBApHAoMAoYAoRAoLAoVAoSHApSApAoHAhVOWEL SIGN AAsItIsUtUsEsAIsOsAUhSIGN VIRAMAmNUKTA",
    "hABBREVIATION SIGNhENUMERATION SIGNhNUMBER SIGNhSECTION MARKhDOUBLE SECTION MARKiANDA",
    "iOUBLE DANDAhVOWEL SIGN VOCALIC R"]⟩,
  ⟨69837, ["aKAITHI NUMBER SIGN ABOVE"]⟩,
  ⟨69840, ["aSORA SOMPENG LETTER SAHuTAHuBAHuCAHuDAHuGAHuMAHuNGAHuLAHuNAHuVAHuPAHuYAHuRAHuHAH",
    "uKAHuJAHuNYAHuAHuEEHuIHuUHuOHuEHuMAE"]⟩,
  ⟨69872, ["aSORA SOMPENG DIGIT ZEROtONEtTWOuHREEtFOURuIVEtSIXuEVENtEIGHTtNINE"]⟩,
  ⟨69888, ["aCHAKMA SIGN CANDRABINDUmANUSVARAmVISARGAhLETTER AAoIoUoEoKAApHAAoGAApHAAoNGAAoCAA",
    "pHAAoJAApHAAoNYAAoTTAAqHAAoDDAAqHAAoNNAAoTAApHAAoDAApHAAoNAAoPAApHAAoBAApHAAoMAAoYYAApAA",
    "oRAAoLAAoWAAoSAAoHAAhVOWEL SIGN AsItIsUtUsEsAIsOsAUsOIhO MARKhAU MARKhVIRAMAhMAAYYAA"]⟩,
  ⟨69942, ["aCHAKMA DIGIT ZEROnONEnTWOoHREEnFOURoIVEnSIXoEVENnEIGHTnNINEhSECTION MARKhDANDA",
    "iOUBLE DANDAhQUESTION MARKhLETTER LHAAhVOWEL SIGN AAsEIhLETTER VAA"]⟩,
  ⟨69968, ["aMAHAJANI LETTER AqIqUqEqOqKArHAqGArHAqCArHAqJArHAqNYAqTTAsHAqDDAsHAqNNAqTArHAqDA",
    "rHAqNAqPArHAqBArHAqMAqRAqLAqVAqSAqHAqRRAjSIGN NUKTAjABBREVIATION SIGNjSECTION MARK",
    "jLIGATURE SHRI"]⟩,
  ⟨70016, ["aSHARADA SIGN CANDRABINDUnANUSVARAnVISARGAiLETTER AqApIqIpUqUpVOCALIC RyRxLyLpEpAI",
    "pOpAUpKAqHApGAqHApNGApCAqHApJAqHApNYApTTArHApDDArHApNNApTAqHApDAqHApNApPAqHApBAqHApMApYA",
    "pRApLAqLApVApSHAqSAqApHAiVOWEL SIGN AAtIuItUuUtVOCALIC RzC RRzC LzC LLtEtAItOtAU",
    "iSIGN VIRAMAnAVAGRAHAnJIHVAMULIYAnUPADHMANIYAiOMiDANDAjOUBLE DANDAiABBREVIATION SIGN",
    "iSEPARATORjANDHI MARKjIGN NUKTAiVOWEL MODIFIER MARKiEXTRA SHORT VOWEL MARKiSUTRA MARK",
    "iVOWEL SIGN PRISHTHAMATRA EiSIGN INVERTED CANDRABINDUiDIGIT ZEROoONEoTWOpHREEoFOURpIVE",
    "oSIXpEVENoEIGHToNINEiEKAMiSIGN SIDDHAMiHEADSTROKEiCONTINUATION SIGNiSECTION MARK-1v2"]⟩,
  ⟨70113, ["aSINHALA ARCHAIC DIGIT ONEwTWOxHREEwFOURxIVEwSIXxEVENwEIGHTwNINEqNUMBER TENyWENTY",
    "yHIRTYxFORTYyIFTYxSIXTYyEVENTYxEIGHTYxNINETYxONE HUNDREDzE THOUSAND"]⟩,
  ⟨70144, ["aKHOJKI LETTER ApAoIoUoEoAIoOoAUoKApHAoGApGApHAoNGAoCApHAoJApJA"]⟩,
  ⟨70163, ["aKHOJKI LETTER NYAoTTAqHAoDDAqHAoNNAoTApHAoDApDDApHAoNAoPApHAoBApBApHAoMAoYAoRAoLA",
    "oVAoSAoHAoLLAhVOWEL SIGN AAsItIsUsEsAIsOsAUhSIGN ANUSVARAmVIRAMAmNUKTAmSHADDAhDANDA",
    "iOUBLE DANDAhWORD SEPARATORhSECTION MARKhDOUBLE SECTION MARKhABBREVIATION SIGNhSIGN SUKUN"]⟩,
  ⟨70272, ["aMULTANI LETTER ApIpUpEpKAqHApGA"]⟩,
  ⟨70280, ["aMULTANI LETTER GHA"]⟩,
  ⟨70282, ["aMULTANI LETTER CAqHApJAqJA"]⟩,
  ⟨70287, ["aMULTANI LETTER NYApTTArHApDDArDArHApNNApTAqHApDAqHApNApPAqHApBA"]⟩,
  ⟨70303, ["aMULTANI LETTER BHApMApYApRApLApVApSApHApRRAqHAiSECTION MARK"]⟩,
  ⟨70320, ["aKHUDAWADI LETTER AsArIsIrUsUrErAIrOrAUrKAsHArGAsGAsHArNGArCAsHArJAsJAsHArNYArTTA",
    "tHArDDAtDArRRArDDHArNNArTAsHArDAsHArNArPAsHArBAsBAsHArMArYArRArLArVArSHAsArHA",
    "kSIGN ANUSVARAkVOWEL SIGN AAvIwIvUwUvEvAIvOvAUkSIGN NUKTApVIRAMA"]⟩,
  ⟨70384, ["aKHUDAWADI DIGIT ZEROqONEqTWOrHREEqFOURrIVEqSIXrEVENqEIGHTqNINE"]⟩,
  ⟨70400, ["aGRANTHA SIGN COMBINING ANUSVARA ABOVEoANDRABINDUnANUSVARAnVISARGA"]⟩,
  ⟨70405, ["aGRANTHA LETTER AqApIqIpUqUpVOCALIC RxL"]⟩,
  ⟨70415, ["aGRANTHA LETTER EEpAI"]⟩,
  ⟨70419, ["aGRANTHA LETTER OOpAUpKAqHApGAqHApNGApCAqHApJAqHApNYApTTArHApDDArHApNNApTAqHApDA",
    "qHApNA"]⟩,
  ⟨70442, ["aGRANTHA LETTER PAqHApBAqHApMApYApRA"]⟩,
  ⟨70450, ["aGRANTHA LETTER LAqLA"]⟩,
  ⟨70453, ["aGRANTHA LETTER VApSHAqSAqApHA"]⟩,
  ⟨70459, ["aCOMBINING BINDU BELOWaGRANTHA SIGN NUKTAnAVAGRAHAiVOWEL SIGN AAtIuItUuUtVOCALIC R",
    "zC RR"]⟩,
  ⟨70471, ["aGRANTHA VOWEL SIGN EEtAI"]⟩,
  ⟨70475, ["aGRANTHA VOWEL SIGN OOtAUiSIGN VIRAMA"]⟩,
  ⟨70480, ["aGRANTHA OM"]⟩,
  ⟨70487, ["aGRANTHA AU LENGTH MARK"]⟩,
  ⟨70493, ["aGRANTHA SIGN PLUTAiLETTER VEDIC ANUSVARAvDOUBLE ANUSVARAqOCALIC RRxLL",
    "iVOWEL SIGN VOCALIC LzC LL"]⟩,
  ⟨70502, ["aCOMBINING GRANTHA DIGIT ZEROyONEyTWOzHREEyFOURzIVEySIX"]⟩,
  ⟨70512, ["aCOMBINING GRANTHA LETTER AzKAzNAzVIzPA"]⟩,
  ⟨70656, ["aNEWA LETTER AnAmInImUnUmVOCALIC RvRuLvLmEmAImOmAUmKAnHAmGAnHAmNGAoHAmCAnHAmJAnHA",
    "mNYAoHAmTTAoHAmDDAoHAmNNAmTAnHAmDAnHAmNAnHAmPAnHAmBAnHAmMAnHAmYAmRAnHAmLAnHAmWAmSHAnSAnA",
    "mHAfVOWEL SIGN AAqIrIqUrUqVOCALIC RzRyLzLqEqAIqOqAUfSIGN VIRAMAkCANDRABINDUkANUSVARA",
    "kVISARGAkNUKTAkAVAGRAHAkFINAL ANUSVARAfOMfSIDDHIfDANDAgOUBLE DANDAfCOMMAfGAP FILLER",
    "fABBREVIATION SIGNfDIGIT ZEROlONElTWOmHREElFOURmIVElSIXmEVENlEIGHTlNINEgOUBLE COMMA",
    "fPLACEHOLDER MARK"]⟩,
  ⟨70749, ["aNEWA INSERTION SIGNfSANDHI MARKfLETTER VEDIC ANUSVARAfSIGN JIHVAMULIYA",
    "kUPADHMANIYA"]⟩,
  ⟨70784, ["aTIRHUTA ANJIiLETTER AqApIqIpUqUpVOCALIC RyRxLyLpEpAIpOpAUpKAqHApGAqHApNGApCAqHA",
    "pJAqHApNYApTTArHApDDArHApNNApTAqHApDAqHApNApPAqHApBAqHApMApYApRApLApVApSHAqSAqApHA",
    "iVOWEL SIGN AAtIuItUuUtVOCALIC RzC RRzC LzC LLtEtSHORT EtAItOtSHORT OtAUiSIGN CANDRABINDU",
    "nANUSVARAnVISARGApRAMAnNUKTAnAVAGRAHAiGVANGiABBREVIATION SIGNiOM"]⟩,
  ⟨70864, ["aTIRHUTA DIGIT ZEROoONEoTWOpHREEoFOURpIVEoSIXpEVENoEIGHToNINE"]⟩,
  ⟨71040, ["aSIDDHAM LETTER AqApIqIpUqUpVOCALIC RyRxLyLpEpAIpOpAUpKAqHApGAqHApNGApCAqHApJAqHA",
    "pNYApTTArHApDDArHApNNApTAqHApDAqHApNApPAqHApBAqHApMApYApRApLApVApSHAqSAqApHA",
    "iVOWEL SIGN AAtIuItUuUtVOCALIC RzC RR"]⟩,
  ⟨71096, ["aSIDDHAM VOWEL SIGN EtAItOtAUiSIGN CANDRABINDUnANUSVARAnVISARGApRAMAnNUKTAnSIDDHAM",
    "iDANDAjOUBLE DANDAiSEPARATOR DOTsBARiREPETITION MARK-1y2y3iEND OF TEXT MARK",
    "iSECTION MARK WITH TRIDENT AND U-SHAPED ORNAMENTSz TRIDENT AND DOTTED CRESCENTS",
    "z RAYS AND DOTTED CRESCENTSz RAYS AND DOTTED DOUBLE CRESCENTS",
    "z RAYS AND DOTTED TRIPLE CRESCENTSvDOUBLE RINGzLE RING WITH RAYSvWITH DOUBLE CRESCENTS",
    "z TRIPLE CRESCENTSz QUADRUPLE CRESCENTSz SEPTUPLE CRESCENTSz CIRCLES AND RAYS",
    "z CIRCLES AND TWO ENCLOSURESz CIRCLES AND FOUR ENCLOSURESiLETTER THREE-CIRCLE ALTERNATE I",
    "qWO-CIRCLE ALTERNATE Iz ALTERNATE IIpALTERNATE UiVOWEL SIGN ALTERNATE UzATE UU"]⟩,
  ⟨71168, ["aMODI LETTER AnAmInImUnUmVOCALIC RvRuLvLmEmAImOmAUmKAnHAmGAnHAmNGAmCAnHAmJAnHAmNYA",
    "mTTAoHAmDDAoHAmNNAmTAnHAmDAnHAmNAmPAnHAmBAnHAmMAmYAmRAmLAmVAmSHAnSAnAmHAmLLA",
    "fVOWEL SIGN AAqIrIqUrUqVOCALIC RzRyLzLqEqAIqOqAUfSIGN ANUSVARAkVISARGAmRAMAkARDHACANDRA",
    "fDANDAgOUBLE DANDAfABBREVIATION SIGNfSIGN HUVA"]⟩,
  ⟨71248, ["aMODI DIGIT ZEROlONElTWOmHREElFOURmIVElSIXmEVENlEIGHTlNINE"]⟩,
  ⟨71264, ["aMONGOLIAN BIRGA WITH ORNAMENTkROTATED BIRGAkDOUBLE BIRGA WITH ORNAMENT",
    "kTRIPLE BIRGA WITH ORNAMENTkBIRGA WITH DOUBLE ORNAMENTkROTATED BIRGA WITH ORNAMENT",
    "zITH DOUBLE ORNAMENTkINVERTED BIRGAy WITH DOUBLE ORNAMENTkSWIRL BIRGAv WITH ORNAMENT",
    "zH DOUBLE ORNAMENTkTURNED SWIRL BIRGA WITH DOUBLE ORNAMENT"]⟩,
  ⟨71296, ["aTAKRI LETTER AoAnIoInUoUnEnAInOnAUnKAoHAnGAoHAnNGAnCAoHAnJAoHAnNYAnTTApHAnDDApHA",
    "nNNAnTAoHAnDAoHAnNAnPAoHAnBAoHAnMAnYAnRAnLAnVAnSHAoAnHAnRRAgSIGN ANUSVARAlVISARGA",
    "gVOWEL SIGN AArIsIrUsUrErAIrOrAUgSIGN VIRAMAlNUKTAgLETTER ARCHAIC KHAgABBREVIATION SIGN"]⟩,
  ⟨71360, ["aTAKRI DIGIT ZEROmONEmTWOnHREEmFOURnIVEmSIXnEVENmEIGHTmNINE"]⟩,
  ⟨71424, ["aAHOM LETTER KAnHAmNGAnAmTAmALTERNATE TAmPAnHAmBAmMAmJAmCHAmTHAmRAmLAmSAmNYAmHAmA",
    "mDAnHAmGAmALTERNATE GAmGHAmBHAmJHAmALTERNATE BA"]⟩,
  ⟨71453, ["aAHOM CONSONANT SIGN MEDIAL LAzL RAzL LIGATING RAfVOWEL SIGN ArAqIrIqUrUqEqAWqOqAI",
    "rMfSIGN KILLER"]⟩,
  ⟨71472, ["aAHOM DIGIT ZEROlONElTWOmHREElFOURmIVElSIXmEVENlEIGHTlNINEfNUMBER TENnWENTY",
    "fSIGN SMALL SECTIONlECTIONkRULAIgYMBOL VIfLETTER CAmTTAoHAmDDAoHAmNNAmLLA"]⟩,
  ⟨71680, ["aDOGRA LETTER AoAnIoInUoUnEnAInOnAUnKAoHAnGAoHAnNGAnCAoHAnJAoHAnNYAnTTApHAnDDApHA",
    "nNNAnTAoHAnDAoHAnNAnPAoHAnBAoHAnMAnYAnRAnLAnVAnSHAoSAoAnHAnRRAgVOWEL SIGN AArIsIrUsU",
    "rVOCALIC RzRRrErAIrOrAUgSIGN ANUSVARAlVISARGAnRAMAlNUKTAgABBREVIATION SIGN"]⟩,
  ⟨71840, ["aWARANG CITI CAPITAL LETTER NGAAzR AzR WIzR YUzR YAzR YOzR IIzR UUzR EzR OzR ANG",
    "zR GAzR KOzR ENYzR YUJzR UCzR ENNzR ODDzR TTEzR NUNGzR DAzR ATzR AMzR BUzR PUzR HIYO",
    "zR HOLOzR HORRzR HARzR SSUUzR SIIzR VIYOmSMALL LETTER NGAAzAzWIzYUzYAzYOzIIzUUzEzOzANGzGA",
    "zKOzENYzYUJzUCzENNzODDzTTEzNUNGzDAzATzAMzBUzPUzHIYOzHOLOzHORRzHARzSSUUzSIIzVIYO",
    "mDIGIT ZEROsONEsTWOtHREEsFOURtIVEsSIXtEVENsEIGHTsNINEmNUMBER TENuWENTYuHIRTYtFORTYuIFTY",
    "tSIXTYuEVENTYtEIGHTYtNINETY"]⟩,
  ⟨71935, ["aWARANG CITI OMaDIVES AKURU LETTER AuAtIuItUuUtE"]⟩,
  ⟨71945, ["aDIVES AKURU LETTER O"]⟩,
  ⟨71948, ["aDIVES AKURU LETTER KAuHAtGAuHAtNGAtCAuHAtJA"]⟩,
  ⟨71957, ["aDIVES AKURU LETTER NYAtTTA"]⟩,
  ⟨71960, ["aDIVES AKURU LETTER DDAvHAtNNAtTAuHAtDAuHAtNAtPAuHAtBAuHAtMAtYAuYAtRAtLAtVAtSHAuSA",
    "uAtHAtLLAtZAmVOWEL SIGN AAxIyIxUyUxE"]⟩,
  ⟨71991, ["aDIVES AKURU VOWEL SIGN AIxO"]⟩,
  ⟨71995, ["aDIVES AKURU SIGN ANUSVARArCANDRABINDUrHALANTAmVIRAMAmPREFIXED NASAL SIGN",
    "mMEDIAL YAmINITIAL RAmMEDIAL RAmSIGN NUKTAmDOUBLE DANDAmGAP FILLERmEND OF TEXT MARK"]⟩,
  ⟨72016, ["aDIVES AKURU DIGIT ZEROsONEsTWOtHREEsFOURtIVEsSIXtEVENsEIGHTsNINE"]⟩,
  ⟨72096, ["aNANDINAGARI LETTER AuAtIuItUuUtVOCALIC RzC RR"]⟩,
  ⟨72106, ["aNANDINAGARI LETTER EtAItOtAUtKAuHAtGAuHAtNGAtCAuHAtJAuHAtNYAtTTAvHAtDDAvHAtNNAtTA",
    "uHAtDAuHAtNAtPAuHAtBAuHAtMAtYAtRAtLAtVAtSHAuSAuAtHAtLLAtRRAmVOWEL SIGN AAxIyIxUyU",
    "xVOCALIC RzCALIC RR"]⟩,
  ⟨72154, ["aNANDINAGARI VOWEL SIGN ExAIxOxAUmSIGN ANUSVARArVISARGAtRAMArAVAGRAHArSIDDHAM",
    "mHEADSTROKEmVOWEL SIGN PRISHTHAMATRA E"]⟩,
  ⟨72192, ["aZANABAZAR SQUARE LETTER ArVOWEL SIGN IzGN UEzGN UzGN EzGN OEzGN OzGN AIzGN AU",
    "zGN REVERSED IxLENGTH MARKrLETTER KAzHAyGAzHAyNGAyCAzHAyJAyNYAyTTAzTHAyDDAzDHAyNNAyTAzHA",
    "yDAzHAyNAyPAzHAyBAzHAyMAyTSAzSHAyDZAzZHAyZHAzAy-AyYAyRAyLAyVAySHAzSAzAyHAyKSSA",
    "rFINAL CONSONANT MARKrSIGN VIRAMAwCANDRABINDUzDRABINDU WITH ORNAMENTzDRA WITH ORNAMENT",
    "wANUSVARAwVISARGArCLUSTER-INITIAL LETTER RAzFINAL LETTER YAzFINAL LETTER RA",
    "zFINAL LETTER LAzFINAL LETTER VArINITIAL HEAD MARKrCLOSING HEAD MARKrMARK TSHEGwSHAD",
    "wDOUBLE SHADwLONG TSHEGrINITIAL DOUBLE-LINED HEAD MARKrCLOSING DOUBLE-LINED HEAD MARK",
    "rSUBJOINER"]⟩,
  ⟨72272, ["aSOYOMBO LETTER AiVOWEL SIGN ItUEutEtOuEtAIuUtVOCALIC RzC LoLENGTH MARKiLETTER KA",
    "qHApGAqHApNGApCAqHApJAqHApNYApTTArHApDDArHApNNApTAqHApDAqHApNApPAqHApBAqHApMApTSArHApDZA",
    "pZHAqAp-ApYApRApLApVApSHAqSAqApHApKSSAiSIGN JIHVAMULIYAnUPADHMANIYA",
    "iCLUSTER-INITIAL LETTER RAzETTER LAzETTER SHAzETTER SAiFINAL CONSONANT SIGN GzIGN K",
    "zIGN NGzIGN DzIGN NzIGN BzIGN MzIGN RzIGN LzIGN SHzIGN SzIGN -AiSIGN ANUSVARAnVISARGA",
    "iGEMINATION MARKiSUBJOINERiMARK TSHEGnSHADnDOUBLE SHADnPLUTA",
    "iHEAD MARK WITH MOON AND SUN AND TRIPLE FLAMEzON AND SUN AND FLAMEzON AND SUN",
    "iTERMINAL MARK-1w2"]⟩,
  ⟨72368, ["aCANADIAN SYLLABICS NATTILIK HIzIK HIIzIK HOzIK HOOzIK HAzIK HAAzIK SHRIzIK SHRII",
    "zIK SHROzIK SHROOzIK SHRAzIK SHRAAtSPEvIvOvAaPAU CIN HAU LETTER PAtKAtLAtMAtDAtZAtVAtNGA",
    "tHAtGAtKHAtSAtBAtCAtTAuHAtNAtPHAtRAtFAtCHAtAtEtItOtUuAtIAtFINAL PzKzTzMzNzLzWzNGzY",
    "mRISING TONE LONGxmSANDHI GLOTTAL STOPmRISING TONE LONG FINALyFINAL",
    "mSANDHI GLOTTAL STOP FINALtTONE LONGxx LONG FINALyFINALmMID-LEVEL TONE",
    "mGLOTTAL STOP VARIANTmMID-LEVEL TONE LONG FINALzE FINALmLOW-FALLING TONE LONGzONE",
    "mGLOTTAL STOPmLOW-FALLING TONE LONG FINALzONE FINALmGLOTTAL STOP FINAL"]⟩,
  ⟨72704, ["aBHAIKSUKI LETTER AsArIsIrUsUrVOCALIC RzRRzL"]⟩,
  ⟨72714, ["aBHAIKSUKI LETTER ErAIrOrAUrKAsHArGAsHArNGArCAsHArJAsHArNYArTTAtHArDDAtHArNNArTA",
    "sHArDAsHArNArPAsHArBAsHArMArYArRArLArVArSHAsSAsArHAkVOWEL SIGN AAvIwIvUwUvVOCALIC R",
    "zLIC RRzLIC L"]⟩,
  ⟨72760, ["aBHAIKSUKI VOWEL SIGN EvAIvOvAUkSIGN CANDRABINDUpANUSVARApVISARGArRAMApAVAGRAHA",
    "kDANDAlOUBLE DANDAkWORD SEPARATORkGAP FILLER-1v2"]⟩,
  ⟨72784, ["aBHAIKSUKI DIGIT ZEROqONEqTWOrHREEqFOURrIVEqSIXrEVENqEIGHTqNINEkNUMBER ONErTWO",
    "sHREErFOURsIVErSIXsEVENrEIGHTrNINErTENsWENTYsHIRTYrFORTYsIFTYrSIXTYsEVENTYrEIGHTYrNINETY",
    "kHUNDREDS UNIT MARK"]⟩,
  ⟨72816, ["aMARCHEN HEAD MARKiMARK SHADiLETTER KAqHApGApNGApCAqHApJApNYApTAqHApDApNApPAqHApBA",
    "pMApTSArHApDZApWApZHAqAp-ApYApRApLApSHAqApHApA"]⟩,
  ⟨72850, ["aMARCHEN SUBJOINED LETTER KAzKHAzGAzNGAzCAzCHAzJAzNYAzTAzTHAzDAzNAzPAzPHAzBAzMA",
    "zTSAzTSHAzDZAzWAzZHAzZA"]⟩,
  ⟨72873, ["aMARCHEN SUBJOINED LETTER YAzRAzLAzSHAzSAzHAzAiVOWEL SIGN AAtItUtEtOiSIGN ANUSVARA",
    "nCANDRABINDU"]⟩,
  ⟨72960, ["aMASARAM GONDI LETTER AwAvIwIvUwUvE"]⟩,
  ⟨72968, ["aMASARAM GONDI LETTER AIvO"]⟩,
  ⟨72971, ["aMASARAM GONDI LETTER AUvKAwHAvGAwHAvNGAvCAwHAvJAwHAvNYAvTTAxHAvDDAxHAvNNAvTAwHA",
    "vDAwHAvNAvPAwHAvBAwHAvMAvYAvRAvLAvVAvSHAwSAwAvHAvLLAvKSSAvJNYAvTRAoVOWEL SIGN AAzIzIIzU",
    "zUUzVOCALIC R"]⟩,
  ⟨73018, ["aMASARAM GONDI VOWEL SIGN E"]⟩,
  ⟨73020, ["aMASARAM GONDI VOWEL SIGN AIzO"]⟩,
  ⟨73023, ["aMASARAM GONDI VOWEL SIGN AUoSIGN ANUSVARAtVISARGAtNUKTAtCANDRAtHALANTAoVIRAMA",
    "oREPHApA-KARA"]⟩,
  ⟨73040, ["aMASARAM GONDI DIGIT ZEROuONEuTWOvHREEuFOURvIVEuSIXvEVENuEIGHTuNINE"]⟩,
  ⟨73056, ["aGUNJALA GONDI LETTER AwAvIwIvUwU"]⟩,
  ⟨73063, ["aGUNJALA GONDI LETTER EEvAI"]⟩,
  ⟨73066, ["aGUNJALA GONDI LETTER OOvAUvYAvVAvBAwHAvMAvKAwHAvTAwHAvLAvGAwHAvDAwHAvNAvCAwHAvTTA",
    "xHAvLLAvJAwHAvDDAxHAvNGAvPAwHAvHAvRAvSAoVOWEL SIGN AAzIzIIzUzUU"]⟩,
  ⟨73104, ["aGUNJALA GONDI VOWEL SIGN EEzAI"]⟩,
  ⟨73107, ["aGUNJALA GONDI VOWEL SIGN OOzAUoSIGN ANUSVARAtVISARGAoVIRAMAoOM"]⟩,
  ⟨73120, ["aGUNJALA GONDI DIGIT ZEROuONEuTWOvHREEuFOURvIVEuSIXvEVENuEIGHTuNINE"]⟩,
  ⟨73440, ["aMAKASAR LETTER KApGApNGApPApBApMApTApDApNApCApJApNYApYApRApLApVApSApAiANGKA",
    "iVOWEL SIGN ItUtEtOiPASSIMBANGiEND OF SECTION"]⟩,
  ⟨73648, ["aLISU LETTER YHA"]⟩,
  ⟨73664, ["aTAMIL FRACTION ONE THREE-HUNDRED-AND-TWENTIETHtONE-HUNDRED-AND-SIXTIETHtEIGHTIETH",
    "tSIXTY-FOURTHtFORTIETHtTHIRTY-SECONDpTHREE EIGHTIETHSvSIXTY-FOURTHSpONE TWENTIETH",
    "tSIXTEENTH-1zNTH-2tTENTHtEIGHTHpTHREE TWENTIETHSvSIXTEENTHSpONE FIFTHtQUARTERtHALF-1y2",
    "pTHREE QUARTERSpDOWNSCALING FACTOR KIIZHgSIGN NELlCEVITUlAAZHAAKKUlUZHAKKUlMUUVUZHAKKU",
    "lKURUNIlPATHAKKUlMUKKURUNIlKAACUlPANAMmONlVARAAKANlPAARAMlKUZHIlVELIgWET CULTIVATION SIGN",
    "gDRY CULTIVATION SIGNgLAND SIGNgSALT PAN SIGNgTRADITIONAL CREDIT SIGNsNUMBER SIGN",
    "gCURRENT SIGNgAND ODD SIGNgSPENT SIGNgTOTAL SIGNgIN POSSESSION SIGNgSTARTING FROM SIGN",
    "hIGN MUTHALIYAlVAKAIYARAA"]⟩,
  ⟨73727, ["aTAMIL PUNCTUATION END OF TEXTaCUNEIFORM SIGN Aq TIMES AxBADxGAN2 TENUxHAxIGI",
    "xLAGAR GUNUxMUSHxSAGq2qBr TIMES ASH2yDUN3 GUNUyGALzAN2 TENUyHAyIGI GUNUzMINyLAGABySHESH",
    "yU PLUS U PLUS UsGUNUr2s TIMES BALAGzGAN2 TENUzME PLUS ENzSHA3zTAK4qDqKr TIMES ERIN2",
    "ySHITA PLUS GISHqLr TIMES ALyDIM2yGISHyHAyKAD3zIySHEyUSHrANrEPHqMARt TIMES SHEqNr OVER AN",
    "sTHREE TIMESsPLUS NAGA OPPOSING AN PLUS NAGAzGA SQUAREDrSHEqPINqRADt TIMES KURrKABqSAL2rH",
    "s ZIDA TENUtKABA TENUtOVER ASH TUG2 OVER TUG2 TUG2 OVER TUG2 PAPzSH OVER ASH",
    "zSH OVER ASH CROSSING ASH OVER ASH OVER ASHs2sGABpBArDrG3rHAR2rLs OVER BALsAGrRsA2qI",
    "r TIMES AyGARyIGI GUNUqUr OVER BU ABz UNsCROSSING BUrLUGu OVER BULUGrRs2pDArG",
    "s KISIM5 TIMES A PLUS MASHz TIMES AMARz TIMES BALAGz TIMES BIz TIMES GA",
    "z TIMES GA PLUS MASHz TIMES GIz TIMES GIR2z TIMES GUDz TIMES HAz TIMES IR",
    "z TIMES IR PLUS LUz TIMES KAKz TIMES LAz TIMES LUz TIMES LU PLUS MASH2z TIMES LUM",
    "z TIMES NEz TIMES PAP PLUS PAPz TIMES SIz TIMES TAK4z TIMES U2 PLUS GIR2z TIMES USHrMrR",
    "sA3t4qIrBrMs TIMES SHEs2rNs KASKAL U GUNU DISHrSHqUr OVER DUsGUNUsSHESHIGrBs TIMES ESH2s2",
    "rGsUDrHrNs3t GUNUy GUNUs4rR2pEq TIMES PAPrOVER E NUN OVER NUNq2r TIMES A PLUS HA PLUS DA",
    "yGARyMIySALzHEyUqDINqGIRqLqNr TIMES GAN2zAN2 TENUyMEsCROSSING ENsOPPOSING ENsSQUAREDqREN",
    "rIN2qSH2qZENt TIMES Az A PLUS LALz A PLUS LAL TIMES LALz ANz BADz DUN3 GUNU",
    "z DUN3 GUNU GUNUz HAz HA GUNUz IGI GUNUz KASKALz KASKAL SQUAREDz KU3z LAz LAL TIMES LAL",
    "z LIz LUz U2z UDpGAr GUNUr2s TIMES A PLUS DA PLUS HAzA PLUS HAzA PLUS IGI",
    "zAB2 TENU PLUS TABzANzASHzASH2 PLUS GALzBADzBAR PLUS RAzBURzBUR PLUS RAzDAzDI",
    "zDIM TIMES SHEzDUBzELzEL PLUS LAzENzEN TIMES GAN2 TENUzGAN2 TENUzGARzGIzGI4zGI4 PLUS A",
    "zGIR2 PLUS SUzHA PLUS LU PLUS ESH2zHALzHAL PLUS LAzHI PLUS LIzHUB2zIGI GUNU",
    "zISH PLUS HU PLUS ASHzKAKzKASKALzKIDzKID PLUS LALzKU3 PLUS ANzLAzME PLUS ENzMIzNUN",
    "zNUN OVER NUNzPAzSALzSARzSHEzSHE PLUS TURzSHIDzSUMzTAK4zUzUDzUD PLUS DUtOVER GA2rBA",
    "t CROSSING GABArDs OVER GAD GAR OVER GARrLs GAD OVER GAD GAR OVER GARsAMrMrNs2t TENU",
    "uOVER GAN2uCROSSING GAN2rRs3rSHANqESHTINw TIMES KURqIr TIMES EyUsCROSSING GIr4s OVER GI4",
    "tCROSSING GI4rDIMrR2t GUNUs3t TIMES A PLUS IGIz GAN2 TENUz IGIz LU PLUS IGIz PArSALsH",
    "t CROSSING GISHuTIMES BADz TAK4vENUqUr CROSSING GUr2s TIMES KAKzKAK TIMES IGI GUNUzNUN",
    "zSAL PLUS TUG2tGUNUrDs TIMES A PLUS KURzKURtOVER GUD LUGALrLrMs TIMES SHErRs7sUNtSHpHA",
    "r TENUsGUNUrLqIr TIMES ASHzSH2yBADyDISHyGADyKINyNUNySHEyUqUrB2t TIMES ANz HALz KASKAL",
    "z LISHz UDrL2pIq AqBqDIMt OVER IDIM BURzIDIM SQUAREDqGrIs DIBtRI",
    "tOVER IGI SHIR OVER SHIR UD OVER UDtGUNUqLr TIMES GAN2 TENUr2qMr TIMES TAK4sCROSSING IM",
    "sOPPOSING IMsSQUAREDrINqNqRqSHpKAr TIMES AzDzD PLUS KU3zSH2yBADzALAGzARzIyERIN2zSH2yGAzAL",
    "zAN2 TENUzARzAR PLUS SHA3 PLUS AzIzIR2zISH PLUS SARzISH CROSSING GISHzUzUR7yIGIzMyKAKzI",
    "zIDyLIzUyMEzE PLUS DUzE PLUS GIzE PLUS TEzIzI PLUS NUNUZyNEzUNyPIyRUySAzARzHAzHEzHIDzHU",
    "zIGzUHURyTARyUz2zDzMUM TIMES PAzSHyZIr2s CROSSING KA2rBrD2s3s4s5t OVER KAD5rK",
    "s TIMES IGI GUNUrLs TIMES BADtCROSSING KALrM2s4rSKALv LAGAB TIMES U OVER LAGAB TIMES U",
    "wOVER KASKAL LAGAB TIMES U OVER LAGAB TIMES UqESH2qIr TIMES BADyUzDrDrNrSALsHsIM5",
    "v OVER KISIM5qUr OVER HI TIMES ASH2 KU OVER HI TIMES ASH2r3r4s VARIANT FORMr7rLs GUNUrNrR",
    "s OPPOSING KURrSHU2qWU318pLArGABu TIMES AzS A PLUS DA PLUS HAzS A PLUS GARzS A PLUS LAL",
    "zS ALzS ANzS ASH ZIDA TENUzS BADzS BIzS DARzS ENzS GAzS GARzS GUDzS GUD PLUS GUDzS HA",
    "zS HALzS HI TIMES NUNzS IGI GUNUzS IMzS IM PLUS HAzS IM PLUS LUzS KIzS KINzS KU3zS KUL",
    "zS KUL PLUS HI PLUS AzS LAGABzS LISHzS LUzS LULzS MEzS ME PLUS ENzS MUSHzS NE",
    "zS SHE PLUS SUMzS SHITA PLUS GISH PLUS ERIN2zS SHITA PLUS GISH TENUzS SHU2",
    "zS SHU2 PLUS SHU2zS SUMzS TAGzS TAK4zS TE PLUS A PLUS SU PLUS NAzS UzS U PLUS A",
    "zS U PLUS U PLUS UzS U2 PLUS ASHzS UDzS USHvSQUAREDtRu TIMES SHEzS SHE PLUS SUMvGUNU",
    "z OVER LAGAR GUNU SHErHSHUrLs TIMES LALrMs TIMES KURzKUR PLUS RUqIrLrMMU2rSHqUr TIMES BAD",
    "r2s TIMES ALzBADzESH2zESH2 TENUzGAN2 TENUzHI TIMES BADzIMzKAD2zKAD3zKAD3 PLUS ASHzKI",
    "zLA PLUS ASHzLAGABzME PLUS ENzNEzNUzSI PLUS ASHzSIK2 PLUS BUzTUG2uENUtCROSSING LU2",
    "tOPPOSING LU2tSQUAREDuHESHIGr3rGALu OVER LUGALwPPOSING LUGALvSHESHIGrHrLrMs OVER LUM",
    "zUM GAR OVER GARpMAr TIMES TAK4sGUNUr2rHrRrSHt2qErSqIrNqUr OVER MUrGs GUNUrNSUBrRGU2rSH",
    "t TIMES Az KURz ZAuOVER MUSHzMUSH TIMES A PLUS NAuCROSSING MUSHt3u TIMES AzS A PLUS DI",
    "zS DIvGUNUpNAr2rGAt INVERTEDuTIMES SHU TENUuOPPOSING NAGAtRrM NUTILLUss2qEr TIMES AyUD",
    "sSHESHIGqIr TIMES Er2rMs TIMES GAN2 TENUzGAR PLUS GAN2 TENUrNDA2v TIMES ANzES ASH",
    "zES ASH PLUS ASHzES GUDzES ME PLUS GAN2 TENUzES NEzES NUNzES SHEzES SHE PLUS A AN",
    "zES SHE PLUS ASHzES SHE PLUS ASH PLUS ASHzES U2 PLUS ASHzES USHrSAGqUr11rN",
    "s LAGAR TIMES GARzTIMES MASHzTIMES SALzTIMES SAL OVER NUN LAGAR TIMES SALzTIMES USHtTENU",
    "tOVER NUNtCROSSING NUNzNG NUN LAGAR OVER LAGARsUZu AB2 TIMES ASHGABzTIMES BIzTIMES DUG",
    "zTIMES GUDzTIMES IGI GUNUzTIMES KAD3zTIMES LAzTIMES NEzTIMES SILA3zTIMES U2",
    "vKISIM5 TIMES BIzM5 TIMES BI UpPArDrNrPqESH2qIr TIMES AzByBIzUyEyIzByUz2sCROSSING PIrRIG",
    "u TIMES KALzS UDzS ZAvOPPOSING PIRIGpRArBqIqUpSArG NUTILLUss TIMES AzDUzDUBzHAzKAKzKUR",
    "zLUMzMIzNUNzSALzSHIDzTABzU2zUBzUMzURzUSHtOVER SAGtGUNUrLs LAGAB TIMES ASH2rNGA2rRqHAs3",
    "t TIMES Az BADz GISHz NEz SHU2z TURz Uz U PLUS As6sB6sR2rEs HU",
    "tOVER SHE GAD OVER GAD GAR OVER GARzHE TAB OVER TAB GAR OVER GARsG9sNsSHu2uLAMrID",
    "t TIMES Az IMsMt TIMES Az BALz BULUGz DINz GARz IGIz IGI GUNUz KUSHU2z LULz MUGz SALsNIG",
    "sRt TENUuOVER SHIR BUR OVER BURsTArUs OVER INVERTED SHUs2sBURqIr GUNUrGs4t OVER SIG4 SHU2",
    "rK2rLA3qUr OVER SUrDs2rHURrMsASHrRs9pTAr ASTERISKsTIMES HIyMIsGUNUrB",
    "s OVER TAB NI OVER NI DISH OVER DISHtSQUAREDrGs TIMES BIzGUDzSHEzSHUzTUG2zUDrK4rRqEr GUNU",
    "qIr TENUrLrRs TIMES TAK4tOVER TIRzIR GAD OVER GAD GAR OVER GARqUrG2rKrMrR",
    "s OVER TUR ZA OVER ZApUq GUDrU UrOVER U PA OVER PA GAR OVER GARySUR OVER SUR",
    "yU REVERSED OVER U REVERSEDq2qBqDr KUSHU2sTIMES BADyMIyU PLUS U PLUS U",
    "z PLUS U PLUS U GUNUsGUNUsSHESHIGz TIMES BADrUGqMr TIMES LAGAByME PLUS DAySHA3yUrBINrUM",
    "t TIMES KASKALz PAqNr GUNUqRr CROSSING URsSHESHIGr2s TIMES A PLUS HAzA PLUS NAzALzHAzNUN",
    "zU2zU2 PLUS ASHzU2 PLUS BIr4rIs3rUs TIMES AzASHGABzBARzDUNzGAzGALzGAN2 TENUzGARzGUzHAzIGI",
    "zIMzISHzKIzLUMzMINzPAzSHEzSIG4zTUzU PLUS GUDzUDzURUDAsDAu TIMES UqSHs TIMES AzKUzKURzTAK4",
    "sXs2sUMXqTUKIqZ3s TIMES KASKALrUpZAr TENUsSQUARED TIMES KURrGrMXqE2qIr OVER ZIr3rB",
    "s KABA TENUrGrZ2qUr5s TIMES ArBURrMpKAP ELAMITEpAB TIMES NUNr2 TIMES AqMAR TIMES KUG",
    "pDAG KISIM5 TIMES U2 PLUS MASHs3qISH PLUS SHUqUB TIMES SHEpEZEN TIMES GUDz SHE",
    "pGA2 TIMES AN PLUS KAK PLUS AzASH2qE22qIGpHUSHpKA TIMES ANSHEzSH3yGISHzUDyHI TIMES ASH2",
    "yLUMyPAySHULyTUyUR2pLAGAB TIMES GIqU2 SHESHIG TIMES BADtTIMES ESH2 PLUS LALzSHUpMESH",
    "qUSH3 TIMES ZApNA4qINs9sDA2 TIMES BALzES GIqU11 ROTATED NINETY DEGREESpPESH2 ASTERISKqIR2",
    "pSAG TIMES IGI GUNUpTI2pUM TIMES MEq U"]⟩,
  ⟨74752, ["aCUNEIFORM NUMERIC SIGN TWO ASHyHREE ASHxFOUR ASHyIVE ASHxSIX ASHyEVEN ASH",
    "xEIGHT ASHxNINE ASHxTHREE DISHxFOUR DISHyIVE DISHxSIX DISHyEVEN DISHxEIGHT DISHxNINE DISH",
    "xFOUR UyIVE UxSIX UyEVEN UxEIGHT UxNINE UxONE GESH2xTWO GESH2yHREE GESH2xFOUR GESH2",
    "yIVE GESH2xSIX GESH2yEVEN GESH2xEIGHT GESH2xNINE GESH2xONE GESHUxTWO GESHUyHREE GESHU",
    "xFOUR GESHUyIVE GESHUxTWO SHAR2yHREE SHAR2zREE SHAR2 VARIANT FORMxFOUR SHAR2yIVE SHAR2",
    "xSIX SHAR2yEVEN SHAR2xEIGHT SHAR2xNINE SHAR2xONE SHARUxTWO SHARUyHREE SHARU",
    "zREE SHARU VARIANT FORMxFOUR SHARUyIVE SHARUxSHAR2 TIMES GAL PLUS DISH",
    "zAR2 TIMES GAL PLUS MINxONE BURUxTWO BURUyHREE BURUzREE BURU VARIANT FORMxFOUR BURU",
    "yIVE BURUxTHREE VARIANT FORM ESH16zREE VARIANT FORM ESH21xFOUR VARIANT FORM LIMMU",
    "zUR VARIANT FORM LIMMU4zUR VARIANT FORM LIMMU AzUR VARIANT FORM LIMMU B",
    "xSIX VARIANT FORM ASH9yEVEN VARIANT FORM IMIN3zVEN VARIANT FORM IMIN A",
    "zVEN VARIANT FORM IMIN BxEIGHT VARIANT FORM USSUzGHT VARIANT FORM USSU3",
    "xNINE VARIANT FORM ILIMMUzNE VARIANT FORM ILIMMU3zNE VARIANT FORM ILIMMU4",
    "zNE VARIANT FORM ILIMMU AxTWO ASH TENUyHREE ASH TENUxFOUR ASH TENUyIVE ASH TENU",
    "xSIX ASH TENUxONE BAN2xTWO BAN2yHREE BAN2xFOUR BAN2zUR BAN2 VARIANT FORMyIVE BAN2",
    "zVE BAN2 VARIANT FORMxNIGIDAMINzGIDAESHxONE ESHE3xTWO ESHE3xONE THIRD DISH",
    "xTWO THIRDS DISHxFIVE SIXTHS DISHxONE THIRD VARIANT FORM AxTWO THIRDS VARIANT FORM A",
    "xONE EIGHTH ASHzE QUARTER ASHyLD ASSYRIAN ONE SIXTHzD ASSYRIAN ONE QUARTERyNE QUARTER GUR",
    "zE HALF GURxELAMITE ONE THIRDzAMITE TWO THIRDSzAMITE FORTYzAMITE FIFTY",
    "xFOUR U VARIANT FORMyIVE U VARIANT FORMxSIX U VARIANT FORMyEVEN U VARIANT FORM",
    "xEIGHT U VARIANT FORMxNINE U VARIANT FORM"]⟩,
  ⟨74864, ["aCUNEIFORM PUNCTUATION SIGN OLD ASSYRIAN WORD DIVIDERzN VERTICAL COLON",
    "zN DIAGONAL COLONzN DIAGONAL TRICOLONzN DIAGONAL QUADCOLON"]⟩,
  ⟨74880, ["aCUNEIFORM SIGN AB TIMES NUN TENUySHU2qD TIMES ESH2pBAD TIMES DISH TENU",
    "rHAR2 TIMES AB2zES NIzES ZAqU OVER BU TIMES NA2pDA TIMES TAK4rG TIMES KURqIM TIMES IGI",
    "zU U Us2 TIMES UDqUG TIMES ANSHEzASHzASH AT LEFTzDINzDUNzERIN2zGAzGIzGIR2 GUNUzGISHzHAzHI",
    "zIGI GUNUzKASKALzKURzKUSHU2zKUSHU2 PLUS KASKALzLAK-020zLAMzLAM TIMES KURzLUH PLUS GISH",
    "zMASHzMESzMIzNIzPIzSHEzSI GUNUpE2 TIMES KURyPAPqRIN2 XqSH2 CROSSING ESH2",
    "qZEN SHESHIG TIMES ASHzIG TIMES HIzIG TIMES IGI GUNUzIG TIMES LAzIG TIMES LALzIG TIMES ME",
    "zIG TIMES MESzIG TIMES SUuTIMES SUpGA2 TIMES BAHAR2zDIM GUNUzDUG TIMES IGI GUNU",
    "zDUG TIMES KASKALzERENzGAzGAR PLUS DIzGAR PLUS NEzHA PLUS AzKUSHU2 PLUS KASKALzLAM",
    "zLAM TIMES KURzLUHzMUSHzNEzNE PLUS E2zNE PLUS GIzSHIMzZIZ2rBA ROTATED NINETY DEGREES",
    "qESHTIN TIMES UqISH TIMES GISH CROSSING GISHqU2 TIMES IGI GUNUrD PLUS GISH TIMES TAK4",
    "pHA TENU GUNUqI TIMES ASH OVER HI TIMES ASHpKA TIMES BUyKAyU U UzRpLAGAB TIMES ZU OVER ZU",
    "rK-003u21v5u30u50v1u62u79 OVER LAK-079 GUNUu80v1 OVER LAK-081u92t130u42t210v9u20v5v8u38",
    "u65v6t343v7v8u83v4u90t441v9w TIMES GUzMES IGIzMES PAP PLUS LU3zMES PAP PLUS PAP PLUS LU3",
    "zMES U2 PLUS BAu50v7u70u83u90v2v3v5t550t608u17w TIMES ASHzMES BADzMES DUN3 GUNU GUNU",
    "zMES KU3zMES LAzMES TARzMES TEzMES U2zMES UDzMES URUDAu36u48w TIMES DUBzMES GAzMES IGI",
    "zMES IGI GUNUzMES NIzMES PAP PLUS PAP PLUS LU3zMES SHESH PLUS KIzMES UDzMES URUDAt724u49",
    "qU2 GUNU TIMES ASHtTIMES DISHzHALzPAPzPAP PLUS PAP PLUS LU3zTAK4pMI PLUS ZA7",
    "qUSH OVER MUSH TIMES GAzMUSH TIMES KAKpNINDA2 TIMES DIM GUNUzES GISHzES GULzES HI",
    "zES KESH2zES LAK-050zES MASHzES PAP PLUS PAPzES UzES U PLUS UzES URUDApSAG GUNU TIMES HA",
    "tTIMES ENzSHE AT LEFTzTAK4qHA6 TENUrE OVER SHEtPLUS HUB2yNAM2ySARrU2 PLUS DUG TIMES NI",
    "zE2 TIMES ANqI TIMES TAK4pTAK4 PLUS SAGqUM TIMES GAN2 TENUzTHREE DISHpUR2 INVERTED",
    "tTIMES UDrU TIMES DARA3zLAK-668zLU3pZA7qU OVER ZU PLUS SARr5 TIMES THREE DISH TENU"]⟩,
  ⟨77712, ["aCYPRO-MINOAN SIGN CM001w2w4w5w6w7w8w9v10w1w2xBw3w5w7w9v21w3w4w5w6w7w8w9v30w3w4w5",
    "w6w7w8w9v40w1w4w6w7w9v50w1w2w3w4w5w6w8w9v60w1w2w3w4w6w7w8w9v70w1w2w3w4w5xBw6w8w9v80w1w2w3",
    "w4w5w6w7w8w9v90w1w2w4w5w6w7w8w9u100w1w2w3w4w5w7w8w9v10w2w4u301w2"]⟩]

end LineScript.Text
