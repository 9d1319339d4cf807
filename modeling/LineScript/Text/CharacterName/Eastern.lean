import LineScript.Text.CharacterName.Block

/-!
Names of the characters of East Asia, of the scripts between the ideographs and the syllables, and
of presentation forms.
-/

namespace LineScript.Text

def easternNames : Array NameBlock := #[
  ⟨11904, ["aCJK RADICAL REPEATmCLIFFmSECOND ONEtTWOuHREEmPERSONmBOXmTABLEmKNIFE ONEsTWO",
    "mDIVINATIONmSEALnMALL ONEsTWOmLAME ONErTWOsHREErFOURmSNAKEmTHREADmSNOUT ONEsTWOmHEART ONE",
    "sTWOnANDmRAP"]⟩,
  ⟨11931, ["aCJK RADICAL CHOKEmSUNmMOONmDEATHmMOTHERmCIVILIANmWATER ONEsTWOmFIREmPAW ONEqTWO",
    "mSIMPLIFIED HALF TREE TRUNKmCOWmDOGmJADEmBOLT OF CLOTHmEYEmSPIRIT ONEtTWOmBAMBOOmSILK",
    "mC-SIMPLIFIED SILKmNET ONEqTWOrHREEqFOURmMESHmSHEEPmRAMmEWEmOLDmBRUSH ONEsTWOmMEATnORTAR",
    "mGRASS ONEsTWOtHREEmTIGERmCLOTHESmWEST ONErTWOmC-SIMPLIFIED SEEmSIMPLIFIED HORNmHORN",
    "mC-SIMPLIFIED SPEECHzSHELLmFOOTmC-SIMPLIFIED CARTmSIMPLIFIED WALKmWALK ONErTWOmCITY",
    "n-SIMPLIFIED GOLDmLONG ONErTWOmC-SIMPLIFIED LONGzGATEmMOUND ONEsTWOmRAINmBLUE",
    "mC-SIMPLIFIED TANNED LEATHERzLEAFzWINDzFLYmEAT ONEqTWOrHREEmC-SIMPLIFIED EATmHEAD",
    "mC-SIMPLIFIED HORSEmBONEmGHOSTmC-SIMPLIFIED FISHzBIRDzSALTmSIMPLIFIED WHEATxYELLOW",
    "mC-SIMPLIFIED FROGmJ-SIMPLIFIED EVENmC-SIMPLIFIED EVENmJ-SIMPLIFIED TOOTH",
    "mC-SIMPLIFIED TOOTHmJ-SIMPLIFIED DRAGONmC-SIMPLIFIED DRAGONmTURTLEmJ-SIMPLIFIED TURTLE",
    "mC-SIMPLIFIED TURTLE"]⟩,
  ⟨12032, ["aKANGXI RADICAL ONEpLINEpDOTpSLASHqECONDpHOOKpTWOpLIDpMANpLEGSpENTERqIGHTpDOWN BOX",
    "pCOVERpICEpTABLEpOPEN BOXpKNIFEpPOWERpWRAPpSPOONpRIGHT OPEN BOXpHIDING ENCLOSUREpTEN",
    "pDIVINATIONpSEALpCLIFFpPRIVATEpAGAINpMOUTHpENCLOSUREqARTHpSCHOLARpGOr SLOWLYpEVENINGpBIG",
    "pWOMANpCHILDpROOFpINCHpSMALLpLAMEpCORPSEpSPROUTpMOUNTAINpRIVERpWORKpONESELFpTURBANpDRY",
    "pSHORT THREADpDOTTED CLIFFpLONG STRIDEpTWO HANDSpSHOOTpBOWpSNOUTpBRISTLEpSTEPpHEART",
    "qALBERDpDOORpHANDpBRANCHpRAPpSCRIPTpDIPPERpAXEpSQUAREpNOTpSUNqAYpMOONpTREEpLACKpSTOP",
    "pDEATHpWEAPONpDO NOTpCOMPAREpFURpCLANpSTEAMpWATERpFIREpCLAWpFATHERpDOUBLE X",
    "pHALF TREE TRUNKpSLICEpFANGpCOWpDOGpPROFOUNDpJADEpMELONpTILEpSWEETpLIFEpUSEpFIELD",
    "pBOLT OF CLOTHpSICKNESSpDOTTED TENTpWHITEpSKINpDISHpEYEpSPEARpARROWpSTONEqPIRITpTRACK",
    "pGRAINpCAVEpSTANDpBAMBOOpRICEpSILKpJARpNETpSHEEPpFEATHERpOLDpANDpPLOWpEARpBRUSHpMEAT",
    "qINISTERpSELFpARRIVEpMORTARpTONGUEpOPPOSEpBOATpSTOPPINGpCOLORpGRASSpTIGERpINSECTpBLOOD",
    "pWALK ENCLOSUREpCLOTHESpWESTpSEEpHORNpSPEECHpVALLEYpBEANpPIGpBADGERpSHELLpREDqUNpFOOT",
    "pBODYpCARTpBITTERpMORNINGpWALKpCITYpWINEpDISTINGUISHpVILLAGEpGOLDpLONGpGATEpMOUNDpSLAVE",
    "qHORT TAILED BIRDpRAINpBLUEpWRONGpFACEpLEATHERpTANNED LEATHERpLEEKpSOUNDpLEAFpWINDpFLY",
    "pEATpHEADpFRAGRANTpHORSEpBONEpTALLpHAIRpFIGHTpSACRIFICIAL WINEpCAULDRONpGHOSTpFISHpBIRD",
    "pSALTpDEERpWHEATpHEMPpYELLOWpMILLETpBLACKpEMBROIDERYpFROGpTRIPODpDRUMpRATpNOSEpEVENpTOOTH",
    "pDRAGONpTURTLEpFLUTE"]⟩,
  ⟨12272, ["aIDEOGRAPHIC DESCRIPTION CHARACTER LEFT TO RIGHTzHARACTER ABOVE TO BELOW",
    "zHARACTER LEFT TO MIDDLE AND RIGHTzHARACTER ABOVE TO MIDDLE AND BELOW",
    "zHARACTER FULL SURROUNDzHARACTER SURROUND FROM ABOVEzHARACTER SURROUND FROM BELOW",
    "zHARACTER SURROUND FROM LEFTzHARACTER SURROUND FROM UPPER LEFT",
    "zHARACTER SURROUND FROM UPPER RIGHTzHARACTER SURROUND FROM LOWER LEFTzHARACTER OVERLAID"]⟩,
  ⟨12288, ["aIDEOGRAPHIC SPACEmCOMMAmFULL STOPaDITTO MARKaJAPANESE INDUSTRIAL STANDARD SYMBOL",
    "aIDEOGRAPHIC ITERATION MARKmCLOSING MARKmNUMBER ZEROaLEFT ANGLE BRACKET",
    "aRIGHT ANGLE BRACKETaLEFT DOUBLE ANGLE BRACKETaRIGHT DOUBLE ANGLE BRACKET",
    "aLEFT CORNER BRACKETaRIGHT CORNER BRACKETaLEFT WHITE CORNER BRACKET",
    "aRIGHT WHITE CORNER BRACKETaLEFT BLACK LENTICULAR BRACKETaRIGHT BLACK LENTICULAR BRACKET",
    "aPOSTAL MARKaGETA MARKaLEFT TORTOISE SHELL BRACKETaRIGHT TORTOISE SHELL BRACKET",
    "aLEFT WHITE LENTICULAR BRACKETaRIGHT WHITE LENTICULAR BRACKET",
    "aLEFT WHITE TORTOISE SHELL BRACKETaRIGHT WHITE TORTOISE SHELL BRACKET",
    "aLEFT WHITE SQUARE BRACKETaRIGHT WHITE SQUARE BRACKETaWAVE DASH",
    "aREVERSED DOUBLE PRIME QUOTATION MARKaDOUBLE PRIME QUOTATION MARK",
    "aLOW DOUBLE PRIME QUOTATION MARKaPOSTAL MARK FACEaHANGZHOU NUMERAL ONErTWOsHREErFOURsIVE",
    "rSIXsEVENrEIGHTrNINEaIDEOGRAPHIC LEVEL TONE MARKmRISING TONE MARKmDEPARTING TONE MARK",
    "mENTERING TONE MARKaHANGUL SINGLE DOT TONE MARKhDOUBLE DOT TONE MARKaWAVY DASH",
    "aVERTICAL KANA REPEAT MARKvWITH VOICED SOUND MARKvMARK UPPER HALF",
    "vWITH VOICED SOUND MARK UPPER HALFvMARK LOWER HALFaCIRCLED POSTAL MARK",
    "aIDEOGRAPHIC TELEGRAPH LINE FEED SEPARATOR SYMBOLaHANGZHOU NUMERAL TENsWENTYsHIRTY",
    "aVERTICAL IDEOGRAPHIC ITERATION MARKaMASU MARKaPART ALTERNATION MARK",
    "aIDEOGRAPHIC VARIATION INDICATORmHALF FILL SPACE"]⟩,
  ⟨12353, ["aHIRAGANA LETTER SMALL AqAqSMALL IqIqSMALL UqUqSMALL EqEqSMALL OqOqKAqGAqKIqGIqKU",
    "qGUqKEqGEqKOqGOqSAqZAqSIqZIqSUqZUqSEqZEqSOqZOqTAqDAqTIqDIqSMALL TUqTUqDUqTEqDEqTOqDOqNArI",
    "rUrErOqHAqBAqPAqHIqBIqPIqHUqBUqPUqHEqBEqPEqHOqBOqPOqMArIrUrErOqSMALL YAqYAqSMALL YUqYU",
    "qSMALL YOqYOqRArIrUrErOqSMALL WAqWArIrErOqNqVUqSMALL KAxE"]⟩,
  ⟨12441, ["aCOMBINING KATAKANA-HIRAGANA VOICED SOUND MARKzNA SEMI-VOICED SOUND MARK",
    "aKATAKANA-HIRAGANA VOICED SOUND MARKsSEMI-VOICED SOUND MARKaHIRAGANA ITERATION MARK",
    "jVOICED ITERATION MARKjDIGRAPH YORIaKATAKANA-HIRAGANA DOUBLE HYPHENi LETTER SMALL AqA",
    "qSMALL IqIqSMALL UqUqSMALL EqEqSMALL OqOqKAqGAqKIqGIqKUqGUqKEqGEqKOqGOqSAqZAqSIqZIqSUqZU",
    "qSEqZEqSOqZOqTAqDAqTIqDIqSMALL TUqTUqDUqTEqDEqTOqDOqNArIrUrErOqHAqBAqPAqHIqBIqPIqHUqBUqPU",
    "qHEqBEqPEqHOqBOqPOqMArIrUrErOqSMALL YAqYAqSMALL YUqYUqSMALL YOqYOqRArIrUrErOqSMALL WAqWA",
    "rIrErOqNqVUqSMALL KAxEqVArIrErOjMIDDLE DOTi-HIRAGANA PROLONGED SOUND MARKi ITERATION MARK",
    "jVOICED ITERATION MARKjDIGRAPH KOTO"]⟩,
  ⟨12549, ["aBOPOMOFO LETTER BqPqMqFqDqTqNqLqGqKqHqJqQqXqZHqCHqSHqRqZqCqSqAqOqErHqAIqEIqAUqOU",
    "qANqENqANGqENGrRqIqUqIUqVqNGqGNqIHqO WITH DOT ABOVEqNN"]⟩,
  ⟨12593, ["aHANGUL LETTER KIYEOKoSSANGKIYEOKoKIYEOK-SIOSoNIEUNt-CIEUCuHIEUHoTIKEUT",
    "oSSANGTIKEUToRIEULt-KIYEOKuMIEUMuPIEUPuSIOSuTHIEUTHuPHIEUPHuHIEUHoMIEUMoPIEUPoSSANGPIEUP",
    "oPIEUP-SIOSoSIOSpSANGSIOSoIEUNGoCIEUCoSSANGCIEUCoCHIEUCHoKHIEUKHoTHIEUTHoPHIEUPHoHIEUHoA",
    "pEoYAqEoEOpoYEOqoOoWAqEoOEoYOoUoWEOqpIoYUoEUoYIoIhFILLERhLETTER SSANGNIEUNoNIEUN-TIKEUT",
    "uSIOSuPANSIOSoRIEUL-KIYEOK-SIOSuTIKEUTuPIEUP-SIOSvANSIOSuYEORINHIEUHoMIEUM-PIEUPuSIOS",
    "uPANSIOSoKAPYEOUNMIEUMoPIEUP-KIYEOKuTIKEUTuSIOS-KIYEOKzTIKEUTuCIEUCuTHIEUTHoKAPYEOUNPIEUP",
    "wSSANGPIEUPoSIOS-KIYEOKtNIEUNtTIKEUTtPIEUPtCIEUCoPANSIOSoSSANGIEUNGoYESIEUNGw-SIOS",
    "xPANSIOSoKAPYEOUNPHIEUPHoSSANGHIEUHoYEORINHIEUHpO-YAtErIpU-YEOtrIoARAEAtE"]⟩,
  ⟨12688, ["aIDEOGRAPHIC ANNOTATION LINKING MARKxREVERSE MARKxONE MARKxTWO MARKyHREE MARK",
    "xFOUR MARKxTOP MARKxMIDDLE MARKxBOTTOM MARKxFIRST MARKxSECOND MARKxTHIRD MARKxFOURTH MARK",
    "xHEAVEN MARKxEARTH MARKxMAN MARKaBOPOMOFO LETTER BUqZIqJIqGUqEErNNqOOrNNqIRqANNqINNqUNN",
    "qIMqNGGqAINNrUNNrMqOMrNGqINNNjFINAL LETTER PwTwKwHjLETTER GHqLHqZYjFINAL LETTER G",
    "jLETTER GWqKWqOEqAHaCJK STROKE TlWGlXGlBXGlSWlHZZnGmPmZWGlSZWGlHZTnZPmPWGmZWnZZlNlHlSlP",
    "lSPlDlHZmGlSZmWZmTmGlPDmZlTNlSZZmWGlHXWGmZZZGlPGlQ"]⟩,
  ⟨12784, ["aKATAKANA LETTER SMALL KUwSIxUwTOwNUwHAxIxUxExOwMUwRAxIxUxExO",
    "aPARENTHESIZED HANGUL KIYEOKvNIEUNvTIKEUTvRIEULvMIEUMvPIEUPvSIOSvIEUNGvCIEUCwHIEUCH",
    "vKHIEUKHvTHIEUTHvPHIEUPHvHIEUHvKIYEOK AvNIEUN AvTIKEUT AvRIEUL AvMIEUM AvPIEUP AvSIOS A",
    "vIEUNG AvCIEUC AwHIEUCH AvKHIEUKH AvTHIEUTH AvPHIEUPH AvHIEUH AvCIEUC U",
    "oKOREAN CHARACTER OJEONzACTER O HU"]⟩,
  ⟨12832, ["aPARENTHESIZED IDEOGRAPH ONEyTWOzHREEyFOURzIVEySIXzEVENyEIGHTyNINEyTENyMOONyFIRE",
    "yWATERzOODyMETALyEARTHySUNzTOCKyHAVEySOCIETYyNAMEySPECIALyFINANCIALyCONGRATULATIONyLABOR",
    "yREPRESENTyCALLySTUDYzUPERVISEyENTERPRISEyRESOURCEyALLIANCEyFESTIVALyRESTySELFyREACH",
    "aCIRCLED IDEOGRAPH QUESTIONsKINDERGARTENsSCHOOLsKOTOiNUMBER TEN ON BLACK SQUARE",
    "qWENTY ON BLACK SQUAREqHIRTY ON BLACK SQUAREpFORTY ON BLACK SQUAREqIFTY ON BLACK SQUARE",
    "pSIXTY ON BLACK SQUAREqEVENTY ON BLACK SQUAREpEIGHTY ON BLACK SQUAREaPARTNERSHIP SIGN",
    "aCIRCLED NUMBER TWENTY ONEwTWOxHREEwFOURxIVEwSIXxEVENwEIGHTwNINEqHIRTYv ONEwTWOxHREEwFOUR",
    "xIVEiHANGUL KIYEOKpNIEUNpTIKEUTpRIEULpMIEUMpPIEUPpSIOSpIEUNGpCIEUCqHIEUCHpKHIEUKHpTHIEUTH",
    "pPHIEUPHpHIEUHpKIYEOK ApNIEUN ApTIKEUT ApRIEUL ApMIEUM ApPIEUP ApSIOS ApIEUNG ApCIEUC A",
    "qHIEUCH ApKHIEUKH ApTHIEUTH ApPHIEUPH ApHIEUH AiKOREAN CHARACTER CHAMKOzJUEUI",
    "iHANGUL IEUNG UaKOREAN STANDARD SYMBOLaCIRCLED IDEOGRAPH ONEsTWOtHREEsFOURtIVEsSIXtEVEN",
    "sEIGHTsNINEsTENsMOONsFIREsWATERtOODsMETALsEARTHsSUNtTOCKsHAVEsSOCIETYsNAMEsSPECIAL",
    "sFINANCIALsCONGRATULATIONsLABORsSECRETsMALEsFEMALEsSUITABLEsEXCELLENTsPRINTsATTENTION",
    "sITEMsRESTsCOPYuRRECTsHIGHsCENTREsLOWtEFTsRIGHTsMEDICINEsRELIGIONsSTUDYtUPERVISE",
    "sENTERPRISEsRESOURCEsALLIANCEsNIGHTiNUMBER THIRTY SIXxEVENwEIGHTwNINEpFORTYu ONEvTWOwHREE",
    "vFOURwIVEvSIXwEVENvEIGHTvNINEqIFTYaIDEOGRAPHIC TELEGRAPH SYMBOL FOR JANUARY",
    "zBOL FOR FEBRUARYzBOL FOR MARCHzBOL FOR APRILzBOL FOR MAYzBOL FOR JUNEzBOL FOR JULY",
    "zBOL FOR AUGUSTzBOL FOR SEPTEMBERzBOL FOR OCTOBERzBOL FOR NOVEMBERzBOL FOR DECEMBER",
    "aSQUARE HGhERGiVaLIMITED LIABILITY SIGNaCIRCLED KATAKANA ArIrUrErOrKAsIsUsEsOrSAsIsUsEsO",
    "rTAsIsUsEsOrNAsIsUsEsOrHAsIsUsEsOrMAsIsUsEsOrYAsUsOrRAsIsUsEsOrWAsIsEsO",
    "aSQUARE ERA NAME REIWAhAPAATOiRUHUAiNPEAiARUhININGUjTIhUONhESUKUUDOiEKAAhONSUiOMUhKAIRI",
    "jRATTOkORIIhGARONjNMAiIGAjNIIhKYURIIhGIRUDAAhKIROlGURAMUlMEETORUlWATTOhGURAMUnTON",
    "hKURUZEIROkOONEiEESUiORUNAjOPOhSAIKURUjNTIIMUiIRINGUiENTIlOhDAASUiESIiORUhTONhNANOiOTTO",
    "hHAITUhPAASENTOkTUhBAARERUhPIASUTORUjKURUkOhBIRUhHUARADDOjIITOhBUSSYERUhHURANiEKUTAARU",
    "hPESOjNIHIhHERUTUhPENSUjEZIhBEETAhPOINTOhBORUTOhHONhPONDOhHOORUkNhMAIKUROkRUjHHAjRUKU",
    "jNSYONiIKURONjRIlBAARUiEGAlTONjETORUhYAADOkRUiUANhRITTORUjRAiUPIIjUBURUiEMUjNTOGENhWATTO",
    "aIDEOGRAPHIC TELEGRAPH SYMBOL FOR HOUR ZEROzBOL FOR HOUR ONEzBOL FOR HOUR TWO",
    "zBOL FOR HOUR THREEzBOL FOR HOUR FOURzBOL FOR HOUR FIVEzBOL FOR HOUR SIX",
    "zBOL FOR HOUR SEVENzBOL FOR HOUR EIGHTzBOL FOR HOUR NINEzBOL FOR HOUR TEN",
    "zBOL FOR HOUR ELEVENzBOL FOR HOUR TWELVEzBOL FOR HOUR THIRTEENzBOL FOR HOUR FOURTEEN",
    "zBOL FOR HOUR FIFTEENzBOL FOR HOUR SIXTEENzBOL FOR HOUR SEVENTEENzBOL FOR HOUR EIGHTEEN",
    "zBOL FOR HOUR NINETEENzBOL FOR HOUR TWENTYzBOL FOR HOUR TWENTY-ONE",
    "zBOL FOR HOUR TWENTY-TWOzBOL FOR HOUR TWENTY-THREEzBOL FOR HOUR TWENTY-FOURaSQUARE HPAhDA",
    "hAUhBARhOVhPChDMj SQUAREDkCUBEDhIUhERA NAME HEISEIqSYOUWAqTAISYOUqMEIZIhCORPORATION",
    "hPA AMPShNAhMU AiAhKAiBhMBhGBhCALhKCALhPFhNFhMU FkGiGhKGhHZhKHZhMHZhGHZhTHZhMU LiLhDLhKL",
    "hFMhNMhMU MiMhCMhKMhMM SQUAREDhCM SQUAREDhM SQUAREDhKM SQUAREDhMM CUBEDhCM CUBEDhM CUBED",
    "hKM CUBEDhM OVER Sp SQUAREDhPAhKPAhMPAhGPAhRADk OVER Sr SQUAREDhPShNShMU SiShPVhNVhMU ViV",
    "hKVhMV MEGAhPWhNWhMU WiWhKWhMW MEGAhK OHMhM OHMhAMhBQhCCiDi OVER KGiOhDBhGYhHAiPhINhKK",
    "iM CAPITALiThLMiNiOGiXhMB SMALLiILiOLhPHiMiPMiRhSRiVhWBhV OVER MhA OVER M",
    "aIDEOGRAPHIC TELEGRAPH SYMBOL FOR DAY ONEzBOL FOR DAY TWOzBOL FOR DAY THREE",
    "zBOL FOR DAY FOURzBOL FOR DAY FIVEzBOL FOR DAY SIXzBOL FOR DAY SEVENzBOL FOR DAY EIGHT",
    "zBOL FOR DAY NINEzBOL FOR DAY TENzBOL FOR DAY ELEVENzBOL FOR DAY TWELVE",
    "zBOL FOR DAY THIRTEENzBOL FOR DAY FOURTEENzBOL FOR DAY FIFTEENzBOL FOR DAY SIXTEEN",
    "zBOL FOR DAY SEVENTEENzBOL FOR DAY EIGHTEENzBOL FOR DAY NINETEENzBOL FOR DAY TWENTY",
    "zBOL FOR DAY TWENTY-ONEzBOL FOR DAY TWENTY-TWOzBOL FOR DAY TWENTY-THREE",
    "zBOL FOR DAY TWENTY-FOURzBOL FOR DAY TWENTY-FIVEzBOL FOR DAY TWENTY-SIX",
    "zBOL FOR DAY TWENTY-SEVENzBOL FOR DAY TWENTY-EIGHTzBOL FOR DAY TWENTY-NINE",
    "zBOL FOR DAY THIRTYzBOL FOR DAY THIRTY-ONEaSQUARE GAL"]⟩,
  ⟨19904, ["aHEXAGRAM FOR THE CREATIVE HEAVENrRECEPTIVE EARTHnDIFFICULTY AT THE BEGINNING",
    "nYOUTHFUL FOLLYnWAITINGnCONFLICTnTHE ARMYnHOLDING TOGETHERnSMALL TAMINGnTREADINGnPEACE",
    "nSTANDSTILLnFELLOWSHIPnGREAT POSSESSIONnMODESTYnENTHUSIASMnFOLLOWINGnWORK ON THE DECAYED",
    "nAPPROACHnCONTEMPLATIONnBITING THROUGHnGRACEnSPLITTING APARTnRETURNnINNOCENCE",
    "nGREAT TAMINGnMOUTH CORNERSnGREAT PREPONDERANCEnTHE ABYSMAL WATERrCLINGING FIREnINFLUENCE",
    "nDURATIONnRETREATnGREAT POWERnPROGRESSnDARKENING OF THE LIGHTnTHE FAMILYnOPPOSITION",
    "oBSTRUCTIONnDELIVERANCEpCREASEnINCREASEnBREAKTHROUGHnCOMING TO MEETnGATHERING TOGETHER",
    "nPUSHING UPWARDnOPPRESSIONnTHE WELLnREVOLUTIONnTHE CAULDRONrAROUSING THUNDER",
    "rKEEPING STILL MOUNTAINnDEVELOPMENTnTHE MARRYING MAIDENnABUNDANCEnTHE WANDERER",
    "rGENTLE WINDrJOYOUS LAKEnDISPERSIONnLIMITATIONnINNER TRUTHnSMALL PREPONDERANCE",
    "nAFTER COMPLETIONnBEFORE COMPLETION"]⟩,
  ⟨40960, ["aYI SYLLABLE ITnXnnPnEToXooPmATnXnnPmUOXooPmOTnXnnPmEXnmWUmBIToXooPoETpXppPnAToXo",
    "oPnUOXppPnOToXooPnEXooPnUToXooPoRXpnYToXooPoRXpmPIToXooPoEXppPnAToXooPnUOXppPnOToXooPnUT",
    "oXooPoRXpnYToXooPoRXpmBBITpXppPpETqXqqPoATpXppPoUOXqqPoOTpXppPoEXppPoUTpXppPpRXqoYTpXppP",
    "mNBITpXppPpEXqqPoATpXppPoOTpXppPoUTpXppPpRXqoYTpXppPpRXqmHMITpXppPpEXqqPoATpXppPoUOXqqP",
    "oOTpXppPoUTpXppPpRXqoYXppPpRXqmMIToXooPoEXppPnAToXooPnUOTpXppPnOToXooPnEXonUToXooPoRXpnYT",
    "oXooPmFIToXooPnAToXooPnOXooPnUToXooPoRXpnYToXooPmVIToXooPoETpXppPnAToXooPnOToXooPnEXoPnUT",
    "oXooPoRXpnYToXooPoRXpmDIToXooPoEXppPnAToXooPnUOXpnOToXooPnEXooPnUToXooPoRXpmTIToXooPoEXp",
    "pPnAToXooPnUOTpXppPnOToXooPnEXooPnUToXooPoRXpmDDITpXppPpEXqqPoATpXppPoUOXqqPoOTpXppPoEXp",
    "pPoUTpXppPpRXqmNDITpXppPpEXqoATpXppPoOTpXppPoEXppPoUTpXppPpRXqmHNITpXppPpETqXqqPoATpXppP",
    "oUOXqoOTpXpPoEXppPoUTmNIToXooPoEXppPnAXooPnUOXppPnOToXooPnEXooPnUToXooPoRXpmHLITpXppPpEXq",
    "qPoATpXppPoUOXqqPoOXppPoEXppPoUTpXppPpRXqoYTpXppPpRXqmLIToXooPoETpXppPnAToXooPnUOTpXppP",
    "nOToXooPnEXooPnUToXooPoRXpnYToXooPoRXpmGIToXooPoETpXppPnAToXooPnUOTpXppPnOToXooPnEToXooP",
    "nUToXooPoRXpmKIToXooPoEXppPnAToXooPnUOXppPnOToXooPnEToXooPnUToXooPoRXpmGGITpXppEXqqPoATpX",
    "ppPoUOTqXqqPoOTpXppPoETpXppPoUTpXppPpRXqmMGIEXqoATpXppPoUOXqqPoOTpXppPoEXppPoUTpXppPpRXq",
    "mHXITpXppPpETqXqqPoATpXppPoUOTqXqqPoOTpXppPoEXppPmNGIEXqqPoATpXppPoUOTqXqoOTpXppPoEXppP",
    "mHIToEXpnAToXooPnUOTpXppPnOToXooPnEXooPmWAToXooPnUOXppPnOXooPnEXooPmZIToXooPoEXppPnAToXo",
    "oPnUOXppPnOToXooPnEXooPnUToXooPoRXpnYToXooPoRXpmCIToXooPoETpXppPnAToXooPnUOXppPnOToXooP",
    "nEXooPnUToXooPoRXpnYToXooPoRXpmZZITpXppPpETqXqqPoATpXppPoOXppPoEXppPoUXppPpRXqoYTpXppPpRX",
    "qmNZITpXppPpEXqqPoATpXppPoUOXqoOXpPoEXpoUXppPpRXqoYTpXppPpRXqmSIToXooPoEXppPnAToXooPnUOXp",
    "pPnOToXooPnEXooPnUToXooPoRXpnYToXooPoRXpnSITpXppPpEXqqPoATpXppPoOTpXppPoEXppPoUTpXppPoYT",
    "pXppPpRXqmZHATpXppPoUOXqqPoOTpXppPoETpXppPoUTpXppPpRXqoYTpXppPpRXqmCHATpXppPoUOTqXqqPoOT",
    "pXppPoETpXppPoUXppPpRXqoYTpXppPpRXqmRRAXpoUOXqoOTpXppPoETpXppPoUTpXppPpRXqoYTpXppPpRXq",
    "mNRATpXppPoOXppPoETpXppPoUTpXppPpRXqoYTpXppPpRXqmSHATpXppPoUOXqqPoOTpXppPoETpXppPoUTpXppP",
    "pRXqoYTpXppPpRXqmRAToXooPnUOXppPnOToXooPnEXooPnUToXooPoRXpnYToXooPoRXpmJIToXooPoETpXppP",
    "nUOTpXppPnOToXooPnUToXooPoRXpnYToXooPoRXpmQIToXooPoETpXppPnUOTpXppPnOToXooPnUToXooPoRXp",
    "nYToXooPoRXpmJJITpXppPpETqXqqPoUOXqqPoOTpXppPoUTpXppPpRXqoYTpXppPmNJITpXppPpETqXqqPoUOXq",
    "oOTpXppPoUXppPpRXqoYTpXppPpRXqnYITpXppPpETqXqqPoUOXqqPoOTpXppPoUTpXppPmXIToXooPoETpXppP",
    "nUOXpnOToXooPnYToXooPoRXpmYIToXooPoETpXppPnUOTpXppPnOToXooPnUToXooPoRXpnYToXooPoRXp"]⟩,
  ⟨42128, ["aYI RADICAL QOTlLIlKITlNYIPlCYPlSSIlGGOPmEPlMIlHXITlLYRlBBUTlMOPlYOlPUTlHXUOlTAT",
    "lGAlZUPlCYTlDDURlBURlGGUOlNYOPlTUlOPlJJUTlZOTlPYTlHMOlYITlVURlSHYlVEPlZAlJOlNZUPlJJYlGOT",
    "lJJIElWOlDUlSHURlLIElCYmUOPmIPlHXOPlSHATlZURlSHOPlCHElZZIETlNBIElKE"]⟩,
  ⟨42192, ["aLISU LETTER BAmPAnHAmDAmTAnHAmGAmKAnHAmJAmCAnHAmDZAmTSAoHAmMAmNAmLAmSAmZHAnAmNGA",
    "mHAmXAmHHAmFAmWAmSHAmYAmGHAmAnEmEnUmImOmUnEnHmOEmTONE MYA TIrNA POrMYA CYAvBOvNAvJEU",
    "fPUNCTUATION COMMArFULL STOPaVAI SYLLABLE EEpNnHEEnWEEqNnPEEnBHEEoEEnMBEEnKPEEnMGBEEnGBEE",
    "nFEEnVEEnTEEoHEEnDHEEpHEEnLEEnREEnDEEnNDEEnSEEoHEEnZEEoHEEnCEEnJEEnNJEEnYEEnKEEnNGGEEnGEE",
    "nMEEnNEEoYEEnIoNnHIpNnWIpNnPInBHIoInMBInKPInMGBInGBInFInVInTIoHInDHIpHInLInRInDInNDInSI",
    "oHInZIoHInCInJInNJInYInKInNGGInGInMInNIoYInAoNnNGANnHApNnWApNnPAnBHAoAnMBAnKPAqNnMGBAnGBA",
    "nFAnVAnTAoHAnDHApHAnLAnRAnDAnNDAnSAoHAnZAoHAnCAnJAnNJAnYAnKApNnNGGAnGAnMAnNAoYAnOOpNnHOO",
    "nWOOqNnPOOnBHOOoOOnMBOOnKPOOnMGBOOnGBOOnFOOnVOOnTOOoHOOnDHOOpHOOnLOOnROOnDOOnNDOOnSOOoHOO",
    "nZOOoHOOnCOOnJOOnNJOOnYOOnKOOnNGGOOnGOOnMOOnNOOoYOOnUoNnHUpNnWUpNnPUnBHUoUnMBUnKPUnMGBU",
    "nGBUnFUnVUnTUoHUnDHUpHUnLUnRUnDUnNDUnSUoHUnZUoHUnCUnJUnNJUnYUnKUnNGGUnGUnMUnNUoYUnOoN",
    "nNGONnHOpNnWOpNnPOnBHOoOnMBOnKPOnMGBOnGBOqNnFOnVOnTOoHOnDHOpHOnLOnROnDOnNDOnSOoHOnZOoHO",
    "nCOnJOnNJOnYOnKOnNGGOnGOnMOnNOoYOnEoNnNGENnHEpNnWEpNnPEnBHEoEnMBEnKPEqNnMGBEnGBEqNnFEnVE",
    "nTEoHEnDHEpHEnLEnREnDEnNDEnSEoHEnZEoHEnCEnJEnNJEnYEnKEnNGGErNnGEpNnMEnNEoYEoGnLENGTHENER",
    "eCOMMAeFULL STOPeQUESTION MARKeSYLLABLE NDOLE FAtKAtSOOgMBOL FEENGlKEENGlTINGlNIIlBANG",
    "lFAAlTAAlDANGmOONGlKUNGlTONGlDO-OlJONGeDIGIT ZEROkONEkTWOlHREEkFOURlIVEkSIXlEVENkEIGHT",
    "kNINEeSYLLABLE NDOLE MAtDO"]⟩,
  ⟨42560, ["aCYRILLIC CAPITAL LETTER ZEMLYAjSMALL LETTER ZEMLYAjCAPITAL LETTER DZELO",
    "jSMALL LETTER DZELOjCAPITAL LETTER REVERSED DZEjSMALL LETTER REVERSED DZE",
    "jCAPITAL LETTER IOTAjSMALL LETTER IOTAjCAPITAL LETTER DJERVjSMALL LETTER DJERV",
    "jCAPITAL LETTER MONOGRAPH UKjSMALL LETTER MONOGRAPH UKjCAPITAL LETTER BROAD OMEGA",
    "jSMALL LETTER BROAD OMEGAjCAPITAL LETTER NEUTRAL YERjSMALL LETTER NEUTRAL YER",
    "jCAPITAL LETTER YERU WITH BACK YERjSMALL LETTER YERU WITH BACK YER",
    "jCAPITAL LETTER IOTIFIED YATjSMALL LETTER IOTIFIED YATjCAPITAL LETTER REVERSED YU",
    "jSMALL LETTER REVERSED YUjCAPITAL LETTER IOTIFIED AjSMALL LETTER IOTIFIED A",
    "jCAPITAL LETTER CLOSED LITTLE YUSjSMALL LETTER CLOSED LITTLE YUS",
    "jCAPITAL LETTER BLENDED YUSjSMALL LETTER BLENDED YUS",
    "jCAPITAL LETTER IOTIFIED CLOSED LITTLE YUSjSMALL LETTER IOTIFIED CLOSED LITTLE YUS",
    "jCAPITAL LETTER YNjSMALL LETTER YNjCAPITAL LETTER REVERSED TSEjSMALL LETTER REVERSED TSE",
    "jCAPITAL LETTER SOFT DEjSMALL LETTER SOFT DEjCAPITAL LETTER SOFT ELjSMALL LETTER SOFT EL",
    "jCAPITAL LETTER SOFT EMjSMALL LETTER SOFT EMjCAPITAL LETTER MONOCULAR O",
    "jSMALL LETTER MONOCULAR OjCAPITAL LETTER BINOCULAR OjSMALL LETTER BINOCULAR O",
    "jCAPITAL LETTER DOUBLE MONOCULAR OjSMALL LETTER DOUBLE MONOCULAR OjLETTER MULTIOCULAR O",
    "bOMBINING CYRILLIC VZMETtTEN MILLIONS SIGNtHUNDRED MILLIONS SIGNtTHOUSAND MILLIONS SIGN",
    "aSLAVONIC ASTERISKaCOMBINING CYRILLIC LETTER UKRAINIAN IEz Iz YIz Uz HARD SIGNz YERU",
    "z SOFT SIGNz OMEGAtKAVYKAtPAYEROKbYRILLIC KAVYKAjPAYEROKjCAPITAL LETTER DWE",
    "jSMALL LETTER DWEjCAPITAL LETTER DZWEjSMALL LETTER DZWEjCAPITAL LETTER ZHWE",
    "jSMALL LETTER ZHWEjCAPITAL LETTER CCHEjSMALL LETTER CCHEjCAPITAL LETTER DZZE",
    "jSMALL LETTER DZZEjCAPITAL LETTER TE WITH MIDDLE HOOKjSMALL LETTER TE WITH MIDDLE HOOK",
    "jCAPITAL LETTER TWEjSMALL LETTER TWEjCAPITAL LETTER TSWEjSMALL LETTER TSWE",
    "jCAPITAL LETTER TSSEjSMALL LETTER TSSEjCAPITAL LETTER TCHEjSMALL LETTER TCHE",
    "jCAPITAL LETTER HWEjSMALL LETTER HWEjCAPITAL LETTER SHWEjSMALL LETTER SHWE",
    "jCAPITAL LETTER DOUBLE OjSMALL LETTER DOUBLE OjCAPITAL LETTER CROSSED O",
    "jSMALL LETTER CROSSED OaMODIFIER LETTER CYRILLIC HARD SIGNzSOFT SIGN",
    "aCOMBINING CYRILLIC LETTER EFz IOTIFIED EaBAMUM LETTER AnKAnUnKUnEEnREEnTAEnOnNYInInLAnPA",
    "nRIIpEEnLEEEEnMEEEEnTAAnNDAAoJAEMnMnSUUnMUnSHIIoIoHEUXoEUXnKYEEoETnNUAEpoJUAEnYOQnSHUnYUQ",
    "oAnNSHAnKEUXnPEUXnNJEEoTEEnPUEnWUEnPEEnFEEnRUnLUnMInNInREUXoAEnKENnNGKWAENpGApAnSHOnPUAE",
    "nFUoOMnWAnNAnLInPInLOQnKOnMBENnRENnMENoAnTInKInMOoBAAnTETnKPAnTENnNTUUnSAMBAnFAAMAEnKOVUU",
    "pGHOMgCOMBINING MARK KOQNDONvTUKWENTISgNJAEMLIgFULL STOPgCOLONiMMAgSEMICOLON",
    "gQUESTION MARK"]⟩,
  ⟨42752, ["aMODIFIER LETTER CHINESE TONE YIN PINGzONE YANG PINGzONE YIN SHANGzONE YANG SHANG",
    "zONE YIN QUzONE YANG QUzONE YIN RUzONE YANG RUqEXTRA-HIGH DOTTED TONE BAR",
    "qHIGH DOTTED TONE BARqMID DOTTED TONE BARqLOW DOTTED TONE BARqEXTRA-LOW DOTTED TONE BAR",
    "wHIGH DOTTED LEFT-STEM TONE BARqHIGH DOTTED LEFT-STEM TONE BAR",
    "qMID DOTTED LEFT-STEM TONE BARqLOW DOTTED LEFT-STEM TONE BAR",
    "qEXTRA-LOW DOTTED LEFT-STEM TONE BARwHIGH LEFT-STEM TONE BARqHIGH LEFT-STEM TONE BAR",
    "qMID LEFT-STEM TONE BARqLOW LEFT-STEM TONE BARqEXTRA-LOW LEFT-STEM TONE BAR",
    "qDOT VERTICAL BARuSLASHuHORIZONTAL BARqLOWER RIGHT CORNER ANGLEqRAISED UP ARROW",
    "xDOWN ARROWxEXCLAMATION MARKxINVERTED EXCLAMATION MARKqLOW INVERTED EXCLAMATION MARK",
    "qSTRESS AND HIGH TONEzD LOW TONEaLATIN CAPITAL LETTER EGYPTOLOGICAL ALEF",
    "gSMALL LETTER EGYPTOLOGICAL ALEFgCAPITAL LETTER EGYPTOLOGICAL AIN",
    "gSMALL LETTER EGYPTOLOGICAL AINgCAPITAL LETTER HENGgSMALL LETTER HENGgCAPITAL LETTER TZ",
    "gSMALL LETTER TZgCAPITAL LETTER TRESILLOgSMALL LETTER TRESILLOgCAPITAL LETTER CUATRILLO",
    "gSMALL LETTER CUATRILLOgCAPITAL LETTER CUATRILLO WITH COMMA",
    "gSMALL LETTER CUATRILLO WITH COMMAgLETTER SMALL CAPITAL FzL SgCAPITAL LETTER AA",
    "gSMALL LETTER AAgCAPITAL LETTER AOgSMALL LETTER AOgCAPITAL LETTER AUgSMALL LETTER AU",
    "gCAPITAL LETTER AVgSMALL LETTER AVgCAPITAL LETTER AV WITH HORIZONTAL BAR",
    "gSMALL LETTER AV WITH HORIZONTAL BARgCAPITAL LETTER AYgSMALL LETTER AY",
    "gCAPITAL LETTER REVERSED C WITH DOTgSMALL LETTER REVERSED C WITH DOT",
    "gCAPITAL LETTER K WITH STROKEgSMALL LETTER K WITH STROKE",
    "gCAPITAL LETTER K WITH DIAGONAL STROKEgSMALL LETTER K WITH DIAGONAL STROKE",
    "gCAPITAL LETTER K WITH STROKE AND DIAGONAL STROKE",
    "gSMALL LETTER K WITH STROKE AND DIAGONAL STROKEgCAPITAL LETTER BROKEN L",
    "gSMALL LETTER BROKEN LgCAPITAL LETTER L WITH HIGH STROKEgSMALL LETTER L WITH HIGH STROKE",
    "gCAPITAL LETTER O WITH LONG STROKE OVERLAYgSMALL LETTER O WITH LONG STROKE OVERLAY",
    "gCAPITAL LETTER O WITH LOOPgSMALL LETTER O WITH LOOPgCAPITAL LETTER OOgSMALL LETTER OO",
    "gCAPITAL LETTER P WITH STROKE THROUGH DESCENDER",
    "gSMALL LETTER P WITH STROKE THROUGH DESCENDERgCAPITAL LETTER P WITH FLOURISH",
    "gSMALL LETTER P WITH FLOURISHgCAPITAL LETTER P WITH SQUIRREL TAIL",
    "gSMALL LETTER P WITH SQUIRREL TAILgCAPITAL LETTER Q WITH STROKE THROUGH DESCENDER",
    "gSMALL LETTER Q WITH STROKE THROUGH DESCENDERgCAPITAL LETTER Q WITH DIAGONAL STROKE",
    "gSMALL LETTER Q WITH DIAGONAL STROKEgCAPITAL LETTER R ROTUNDAgSMALL LETTER R ROTUNDA",
    "gCAPITAL LETTER RUM ROTUNDAgSMALL LETTER RUM ROTUNDA",
    "gCAPITAL LETTER V WITH DIAGONAL STROKEgSMALL LETTER V WITH DIAGONAL STROKE",
    "gCAPITAL LETTER VYgSMALL LETTER VYgCAPITAL LETTER VISIGOTHIC ZgSMALL LETTER VISIGOTHIC Z",
    "gCAPITAL LETTER THORN WITH STROKEgSMALL LETTER THORN WITH STROKE",
    "gCAPITAL LETTER THORN WITH STROKE THROUGH DESCENDER",
    "gSMALL LETTER THORN WITH STROKE THROUGH DESCENDERgCAPITAL LETTER VENDgSMALL LETTER VEND",
    "gCAPITAL LETTER ETgSMALL LETTER ETgCAPITAL LETTER ISgSMALL LETTER ISgCAPITAL LETTER CON",
    "gSMALL LETTER CONaMODIFIER LETTER USaLATIN SMALL LETTER DUMtLUMtMUMtNUMtRUM",
    "gLETTER SMALL CAPITAL RUMgSMALL LETTER TUMtUMgCAPITAL LETTER INSULAR D",
    "gSMALL LETTER INSULAR DgCAPITAL LETTER INSULAR FgSMALL LETTER INSULAR F",
    "gCAPITAL LETTER INSULAR GvTURNED INSULAR GgSMALL LETTER TURNED INSULAR G",
    "gCAPITAL LETTER TURNED LgSMALL LETTER TURNED LgCAPITAL LETTER INSULAR R",
    "gSMALL LETTER INSULAR RgCAPITAL LETTER INSULAR SgSMALL LETTER INSULAR S",
    "gCAPITAL LETTER INSULAR TgSMALL LETTER INSULAR TaMODIFIER LETTER LOW CIRCUMFLEX ACCENT",
    "qCOLONqSHORT EQUALS SIGNaLATIN CAPITAL LETTER SALTILLOgSMALL LETTER SALTILLO",
    "gCAPITAL LETTER TURNED HgSMALL LETTER L WITH RETROFLEX HOOK AND BELT",
    "gLETTER SINOLOGICAL DOTgCAPITAL LETTER N WITH DESCENDERgSMALL LETTER N WITH DESCENDER",
    "gCAPITAL LETTER C WITH BARgSMALL LETTER C WITH BARz PALATAL HOOKtH WITH PALATAL HOOK",
    "gCAPITAL LETTER B WITH FLOURISHgSMALL LETTER B WITH FLOURISHgCAPITAL LETTER F WITH STROKE",
    "gSMALL LETTER F WITH STROKEgCAPITAL LETTER VOLAPUK AEgSMALL LETTER VOLAPUK AE",
    "gCAPITAL LETTER VOLAPUK OEgSMALL LETTER VOLAPUK OEgCAPITAL LETTER VOLAPUK UE",
    "gSMALL LETTER VOLAPUK UEgCAPITAL LETTER G WITH OBLIQUE STROKE",
    "gSMALL LETTER G WITH OBLIQUE STROKEgCAPITAL LETTER K WITH OBLIQUE STROKE",
    "gSMALL LETTER K WITH OBLIQUE STROKEgCAPITAL LETTER N WITH OBLIQUE STROKE",
    "gSMALL LETTER N WITH OBLIQUE STROKEgCAPITAL LETTER R WITH OBLIQUE STROKE",
    "gSMALL LETTER R WITH OBLIQUE STROKEgCAPITAL LETTER S WITH OBLIQUE STROKE",
    "gSMALL LETTER S WITH OBLIQUE STROKEgCAPITAL LETTER H WITH HOOKvREVERSED OPEN EvSCRIPT G",
    "vL WITH BELTvSMALL CAPITAL IgLETTER SMALL CAPITAL QgCAPITAL LETTER TURNED KzED T",
    "vJ WITH CROSSED-TAILvCHIvBETAgSMALL LETTER BETAgCAPITAL LETTER OMEGAgSMALL LETTER OMEGA",
    "gCAPITAL LETTER U WITH STROKEgSMALL LETTER U WITH STROKEgCAPITAL LETTER GLOTTAL A",
    "gSMALL LETTER GLOTTAL AgCAPITAL LETTER GLOTTAL IgSMALL LETTER GLOTTAL I",
    "gCAPITAL LETTER GLOTTAL UgSMALL LETTER GLOTTAL UgCAPITAL LETTER OLD POLISH O",
    "gSMALL LETTER OLD POLISH OgCAPITAL LETTER ANGLICANA WgSMALL LETTER ANGLICANA W",
    "gCAPITAL LETTER C WITH PALATAL HOOKvS WITH HOOKvZ WITH PALATAL HOOK",
    "vD WITH SHORT STROKE OVERLAYgSMALL LETTER D WITH SHORT STROKE OVERLAY",
    "gCAPITAL LETTER S WITH SHORT STROKE OVERLAYgSMALL LETTER S WITH SHORT STROKE OVERLAY"]⟩,
  ⟨42960, ["aLATIN CAPITAL LETTER CLOSED INSULAR GgSMALL LETTER CLOSED INSULAR G"]⟩,
  ⟨42963, ["aLATIN SMALL LETTER DOUBLE THORN"]⟩,
  ⟨42965, ["aLATIN SMALL LETTER DOUBLE WYNNgCAPITAL LETTER MIDDLE SCOTS S",
    "gSMALL LETTER MIDDLE SCOTS SgCAPITAL LETTER SIGMOID SgSMALL LETTER SIGMOID S"]⟩,
  ⟨42994, ["aMODIFIER LETTER CAPITAL CyFyQaLATIN CAPITAL LETTER REVERSED HALF H",
    "gSMALL LETTER REVERSED HALF HgEPIGRAPHIC LETTER SIDEWAYS I",
    "aMODIFIER LETTER CAPITAL H WITH STROKEqSMALL LIGATURE OE",
    "aLATIN LETTER SMALL CAPITAL TURNED MgEPIGRAPHIC LETTER REVERSED FzEVERSED PyINVERTED M",
    "z LONGAyARCHAIC MaSYLOTI NAGRI LETTER AuInSIGN DVISVARAnLETTER UuEuOnSIGN HASANTA",
    "nLETTER KOvHOuGOvHOnSIGN ANUSVARAnLETTER COvHOuJOvHOuTTOwHOuDDOwHOuTOvHOuDOvHOuNOuPOvHO",
    "uBOvHOuMOuROuLOuRROuSOuHOnVOWEL SIGN AyIyUyEyOOnPOETRY MARK-1z2z3z4",
    "nSIGN ALTERNATE HASANTA"]⟩,
  ⟨43056, ["aNORTH INDIC FRACTION ONE QUARTERzHALFvTHREE QUARTERSvONE SIXTEENTHzEIGHTH",
    "vTHREE SIXTEENTHSmQUARTER MARKmPLACEHOLDER MARKmRUPEE MARKmQUANTITY MARK"]⟩,
  ⟨43072, ["aPHAGS-PA LETTER KArHAqGAqNGAqCArHAqJAqNYAqTArHAqDAqNAqPArHAqBAqMAqTSAsHAqDZAqWA",
    "qZHArAqSMALL AqYAqRAqLAqSHArAqHAqAqIqUqEqOqQAqXAqFAqGGAqEEjSUBJOINED LETTER WAz YA",
    "jLETTER TTAsHAqDDAqNNAqALTERNATE YAqVOICELESS SHAvD HAqASPIRATED FAjSUBJOINED LETTER RA",
    "lPERFIXED LETTER RAjLETTER CANDRABINDUjSINGLE HEAD MARKjDOUBLE HEAD MARKjMARK SHAD",
    "oDOUBLE SHAD"]⟩,
  ⟨43136, ["aSAURASHTRA SIGN ANUSVARAqVISARGAlLETTER AtAsItIsUtUsVOCALIC Rz RRz Lz LLsEtEsAIsO",
    "tOsAUsKAtHAsGAtHAsNGAsCAtHAsJAtHAsNYAsTTAuHAsDDAuHAsNNAsTAtHAsDAtHAsNAsPAtHAsBAtHAsMAsYA",
    "sRAsLAsVAsSHAtSAtAsHAsLLAlCONSONANT SIGN HAARUlVOWEL SIGN AAwIxIwUxUwVOCALIC RzALIC RR",
    "zALIC LzALIC LLwExEwAIwOxOwAUlSIGN VIRAMAqCANDRABINDU"]⟩,
  ⟨43214, ["aSAURASHTRA DANDAmOUBLE DANDAmIGIT ZEROrONErTWOsHREErFOURsIVErSIXsEVENrEIGHTrNINE"]⟩,
  ⟨43232, ["aCOMBINING DEVANAGARI DIGIT ZEROzT ONEzT TWOzT THREEzT FOURzT FIVEzT SIXzT SEVEN",
    "zT EIGHTzT NINEvLETTER AzER UzER KAzER NAzER PAzER RAzER VIvSIGN AVAGRAHA",
    "aDEVANAGARI SIGN SPACING CANDRABINDUqCANDRABINDU VIRAMAqDOUBLE CANDRABINDU VIRAMA",
    "qCANDRABINDU TWOzDU THREEzDU AVAGRAHAqPUSHPIKAlGAP FILLERlCARETlHEADSTROKElSIGN SIDDHAM",
    "lJAIN OMlLETTER AYlVOWEL SIGN AYaKAYAH LI DIGIT ZEROpONEpTWOqHREEpFOURqIVEpSIXqEVENpEIGHT",
    "pNINEjLETTER KArHAqGAqNGAqSArHAqZAqNYAqTAqHTAqNAqPArHAqMAqDAqBAqRAqYAqLAqWAqTHAqHAqVAqCA",
    "qAqOEqIqOOjVOWEL UEpEpUpEEpOjTONE PLOPHUoCALYAt PLOPHUjSIGN CWIoSHYAaREJANG LETTER KAoGA",
    "oNGAoTAoDAoNAoPAoBAoMAoCAoJAoNYAoSAoRAoLAoYAoWAoHAoMBAoNGGApDApYJAoAhVOWEL SIGN IsUsEsAI",
    "sOsAUsEUtAhCONSONANT SIGN NGxwRwHhVIRAMA"]⟩,
  ⟨43359, ["aREJANG SECTION MARKaHANGUL CHOSEONG TIKEUT-MIEUMxPIEUPxSIOSxCIEUCqRIEUL-KIYEOK",
    "wSSANGKIYEOKwTIKEUTwSSANGTIKEUTwMIEUMwPIEUPwSSANGPIEUPwKAPYEOUNPIEUPwSIOSwCIEUCwKHIEUKH",
    "qMIEUM-KIYEOKwTIKEUTwSIOSqPIEUP-SIOS-THIEUTHwKHIEUKHwHIEUHqSSANGSIOS-PIEUPqIEUNG-RIEUL",
    "wHIEUHqSSANGCIEUC-HIEUHvTHIEUTHqPHIEUPH-HIEUHqHIEUH-SIOSqSSANGYEORINHIEUH"]⟩,
  ⟨43392, ["aJAVANESE SIGN PANYANGGAoCECAKoLAYARoWIGNYANjLETTER AqI KAWIrrIqUqPA CEREK",
    "qNGA LELETz RASWADIqEqAIqOqKAs SASAKtMURDAqGAs MURDAqNGAqCAs MURDAqJAqNYA MURDA",
    "qJA MAHAPRANAqNYAqTTAt MAHAPRANAqDDAt MAHAPRANAqNA MURDAqTAs MURDAqDAs MAHAPRANAqNAqPA",
    "s MURDAqBAs MURDAqMAqYAqRAs AGUNGqLAqWAqSA MURDAuAHAPRANAsqHAjSIGN CECAK TELU",
    "jVOWEL SIGN TARUNGvOLONGuWULUy MELIKuSUKUy MENDUTuTALINGuDIRGA MUREuPEPET",
    "jCONSONANT SIGN KERETyPENGKALyCAKRAjPANGKONjLEFT RERENGGANjRIGHT RERENGGANjPADA ANDAP",
    "oMADYAoLUHURoWINDUoPANGKAToLINGSApUNGSIoADEGs ADEGoPISELEHjTURNED PADA PISELEH"]⟩,
  ⟨43471, ["aJAVANESE PANGRANGKEPjDIGIT ZEROpONEpTWOqHREEpFOURqIVEpSIXqEVENpEIGHTpNINE"]⟩,
  ⟨43486, ["aJAVANESE PADA TIRTA TUMETESoISEN-ISENaMYANMAR LETTER SHAN GHAuCHAuJHAuNNAuBHA",
    "iSIGN SHAN SAWiMODIFIER LETTER SHAN REDUPLICATIONiLETTER TAI LAING NYAzFAzGAzGHAzJAzJHA",
    "zDDAzDDHAzNNAiTAI LAING DIGIT ZEROyONEyTWOzHREEyFOURzIVEySIXzEVENyEIGHTyNINE",
    "iLETTER TAI LAING LLAzDAzDHAzBAzBHA"]⟩,
  ⟨43520, ["aCHAM LETTER AmImUmEmAImOmKAnHAmGAnHAmNGUEoAmCHAoHAmJAnHAmNHUEoAoJAmTAnHAmDAnHA",
    "mNUEnAmDDAmPAnPAnHAmBAnHAmMUEnAmBBAmYAmRAmLAmVAmSSAnAmHAfVOWEL SIGN AAqIrIqEIqUqOErqAIrU",
    "qUEfCONSONANT SIGN YAuRAuLAuWA"]⟩,
  ⟨43584, ["aCHAM LETTER FINAL KsGsNGfCONSONANT SIGN FINAL NGfLETTER FINAL CHsTsNsPsYsRsLsSS",
    "fCONSONANT SIGN FINAL Mz H"]⟩,
  ⟨43600, ["aCHAM DIGIT ZEROlONElTWOmHREElFOURmIVElSIXmEVENlEIGHTlNINE"]⟩,
  ⟨43612, ["aCHAM PUNCTUATION SPIRALrDANDAsOUBLE DANDArTRIPLE DANDAaMYANMAR LETTER KHAMTI GA",
    "wCAxHAwJAxHAwNYAwTTAyHAwDDAyHAxHAwNAwSAwHAxHAwFAiMODIFIER LETTER KHAMTI REDUPLICATION",
    "iLETTER KHAMTI XAwZAwRAjOGOGRAM KHAMTI OAYyQNyHMiSYMBOL AITON EXCLAMATIONvONEvTWO",
    "iLETTER AITON RAiSIGN PAO KAREN TONEnTAI LAING TONE-2zNE-5iLETTER SHWE PALAUNG CHAzNG SHA",
    "aTAI VIET LETTER LOW KOqHIGH KOqLOW KHOqHIGH KHOqLOW KHHOqHIGH KHHOqLOW GOqHIGH GO",
    "qLOW NGOqHIGH NGOqLOW COqHIGH COqLOW CHOqHIGH CHOqLOW SOqHIGH SOqLOW NYOqHIGH NYOqLOW DO",
    "qHIGH DOqLOW TOqHIGH TOqLOW THOqHIGH THOqLOW NOqHIGH NOqLOW BOqHIGH BOqLOW POqHIGH PO",
    "qLOW PHOqHIGH PHOqLOW FOqHIGH FOqLOW MOqHIGH MOqLOW YOqHIGH YOqLOW ROqHIGH ROqLOW LO",
    "qHIGH LOqLOW VOqHIGH VOqLOW HOqHIGH HOqLOW OqHIGH OjMAI KANGjVOWEL AApIpUEqpEpOjMAI KHIT",
    "jVOWEL IApUEAqApAUEqYqNqMjTONE MAI EKsNUENGsTHOsSONG"]⟩,
  ⟨43739, ["aTAI VIET SYMBOL KONqNUENGqSAMqHO HOIqKOI KOIaMEETEI MAYEK LETTER EuOuCHAuNYAuTTA",
    "wHAuDDAwHAuNNAuSHAvSAnVOWEL SIGN IIyUUyAAIzUzAUnCHEIKHANnAHANG KHUDAMoNJI",
    "nSYLLABLE REPETITION MARKnWORD REPETITION MARKnVOWEL SIGN VISARGAoIRAMA"]⟩,
  ⟨43777, ["aETHIOPIC SYLLABLE TTHUvIvAAvEEwvO"]⟩,
  ⟨43785, ["aETHIOPIC SYLLABLE DDHUvIvAAvEEwvO"]⟩,
  ⟨43793, ["aETHIOPIC SYLLABLE DZUuIuAAuEEvuO"]⟩,
  ⟨43808, ["aETHIOPIC SYLLABLE CCHHAwUwIwAAwEExwO"]⟩,
  ⟨43816, ["aETHIOPIC SYLLABLE BBAuUuIuAAuEEvuO"]⟩,
  ⟨43824, ["aLATIN SMALL LETTER BARRED ALPHAtA REVERSED-SCHWAtBLACKLETTER EuARRED E",
    "tE WITH FLOURISHtLENIS FtSCRIPT G WITH CROSSED-TAILtL WITH INVERTED LAZY S",
    "z DOUBLE MIDDLE TILDEz MIDDLE RINGtM WITH CROSSED-TAILtN WITH CROSSED-TAIL",
    "tENG WITH CROSSED-TAILtBLACKLETTER OzETTER O WITH STROKEtOPEN O WITH STROKEtINVERTED OE",
    "tTURNED OE WITH STROKEz OE WITH HORIZONTAL STROKEz O OPEN-Oz O OPEN-O WITH STROKE",
    "tSTIRRUP RgLETTER SMALL CAPITAL R WITH RIGHT LEGgSMALL LETTER R WITHOUT HANDLEtDOUBLE R",
    "tR WITH CROSSED-TAILtDOUBLE R WITH CROSSED-TAILtSCRIPT Rz R WITH RINGtBASELINE ESH",
    "tU WITH SHORT RIGHT LEGvBAR WITH SHORT RIGHT LEGuItTURNED UItU WITH LEFT HOOKtCHI",
    "w WITH LOW RIGHT RINGzTH LOW LEFT SERIFtX WITH LOW RIGHT RINGz LONG LEFT LEG",
    "z LONG LEFT LEG AND LOW RIGHT RINGz LONG LEFT LEG WITH SERIFtY WITH SHORT RIGHT LEG",
    "aMODIFIER BREVE WITH INVERTED BREVEjLETTER SMALL HENGwL WITH INVERTED LAZY S",
    "zITH MIDDLE TILDEwU WITH LEFT HOOKaLATIN SMALL LETTER SAKHA YATtIOTIFIED EtOPEN OEtUO",
    "tINVERTED ALPHAaGREEK LETTER SMALL CAPITAL OMEGA",
    "aLATIN SMALL LETTER DZ DIGRAPH WITH RETROFLEX HOOKtTS DIGRAPH WITH RETROFLEX HOOK",
    "uURNED R WITH MIDDLE TILDEaMODIFIER LETTER SMALL TURNED WqLEFT TACKqRIGHT TACK"]⟩,
  ⟨43888, ["aCHEROKEE SMALL LETTER AwEwIwOwUwVwGAwKAwGExIxOxUxVwHAxExIxOxUxVwLAxExIxOxUxVwMAxE",
    "xIxOxUwNAwHNAwNAHxExIxOxUxVwQUAyEyIyOyUyVwSAxxExIxOxUxVwDAwTAwDEwTEwDIwTIwDOxUxVxLAwTLAyE",
    "yIyOyUyVxSAyEyIyOyUyVwWAxExIxOxUxVwYAaMEETEI MAYEK LETTER KOKuSAMuLAIuMITuPAuNAuCHILuTIL",
    "uKHOUuNGOUuTHOUuWAIuYANGuHUKuUNuIuPHAMuATIYAuGOKuJHAMuRAIuBAuJILuDILuGHOUuDHOUuBHAM",
    "uKOK LONSUMuLAI LONSUMuMIT LONSUMuPA LONSUMuNA LONSUMuTIL LONSUMuNGOU LONSUMuI LONSUM",
    "nVOWEL SIGN ONAPyINAPyANAPyYENAPySOUNAPyUNAPyCHEINAPyNUNGnCHEIKHEInLUM IYEKnAPUN IYEK"]⟩,
  ⟨44016, ["aMEETEI MAYEK DIGIT ZEROtONEtTWOuHREEtFOURuIVEtSIXuEVENtEIGHTtNINE"]⟩,
  ⟨55216, ["aHANGUL JUNGSEONG O-YEOtO-IrYO-AvEuEOrU-YEOtI-IrYU-AEuOrEU-AuEOvuOrI-YA-OvEuEOv",
    "tO-ItYOuUtIrARAEA-AxE"]⟩,
  ⟨55243, ["aHANGUL JONGSEONG NIEUN-RIEULxCHIEUCHrSSANGTIKEUTzEUT-PIEUPrTIKEUT-PIEUPySIOS",
    "zIOS-KIYEOKyCIEUCzHIEUCHyTHIEUTHrRIEUL-SSANGKIYEOKxKIYEOK-HIEUHrSSANGRIEUL-KHIEUKH",
    "rRIEUL-MIEUM-HIEUHxPIEUP-TIKEUTzEUP-PHIEUPHxYESIEUNGzORINHIEUH-HIEUHrKAPYEOUNRIEUL",
    "rMIEUM-NIEUNxSSANGNIEUNrSSANGMIEUMrMIEUM-PIEUP-SIOSxCIEUCrPIEUP-TIKEUTxRIEUL-PHIEUPH",
    "xMIEUMrSSANGPIEUPrPIEUP-SIOS-TIKEUTxCIEUCyHIEUCHrSIOS-MIEUMwKAPYEOUNPIEUPsSANGSIOS-KIYEOK",
    "zS-TIKEUTsIOS-PANSIOSwCIEUCxHIEUCHwTHIEUTHwHIEUHrPANSIOS-PIEUPzKAPYEOUNPIEUP",
    "rYESIEUNG-MIEUMz-HIEUHrCIEUC-PIEUPxSSANGPIEUPrSSANGCIEUCrPHIEUPH-SIOSzTHIEUTH"]⟩,
  ⟨64256, ["aLATIN SMALL LIGATURE FFwIwLwFIxLvLONG S TvST"]⟩,
  ⟨64275, ["aARMENIAN SMALL LIGATURE MEN NOWzEN ECHzEN INIyVEW NOWyMEN XEH"]⟩,
  ⟨64285, ["aHEBREW LETTER YOD WITH HIRIQhPOINT JUDEO-SPANISH VARIKA",
    "hLIGATURE YIDDISH YOD YOD PATAHiETTER ALTERNATIVE AYINoWIDE ALEFtDALETtHEtKAFtLAMED",
    "tFINAL MEMtRESHtTAVoALTERNATIVE PLUS SIGNoSHIN WITH SHIN DOTzIN DOTyDAGESH AND SHIN DOT",
    "zAGESH AND SIN DOToALEF WITH PATAHyQAMATSyMAPIQoBET WITH DAGESHoGIMEL WITH DAGESH",
    "oDALET WITH DAGESHoHE WITH MAPIQoVAV WITH DAGESHoZAYIN WITH DAGESH"]⟩,
  ⟨64312, ["aHEBREW LETTER TET WITH DAGESHoYOD WITH DAGESHoFINAL KAF WITH DAGESH",
    "oKAF WITH DAGESHoLAMED WITH DAGESH"]⟩,
  ⟨64318, ["aHEBREW LETTER MEM WITH DAGESH"]⟩,
  ⟨64320, ["aHEBREW LETTER NUN WITH DAGESHoSAMEKH WITH DAGESH"]⟩,
  ⟨64323, ["aHEBREW LETTER FINAL PE WITH DAGESHoPE WITH DAGESH"]⟩,
  ⟨64326, ["aHEBREW LETTER TSADI WITH DAGESHoQOF WITH DAGESHoRESH WITH DAGESHoSHIN WITH DAGESH",
    "oTAV WITH DAGESHoVAV WITH HOLAMoBET WITH RAFEoKAF WITH RAFEoPE WITH RAFE",
    "iIGATURE ALEF LAMEDaARABIC LETTER ALEF WASLA ISOLATED FORMzFINAL FORMoBEEH ISOLATED FORM",
    "tFINAL FORMtINITIAL FORMtMEDIAL FORMoPEH ISOLATED FORMsFINAL FORMsINITIAL FORM",
    "sMEDIAL FORMoBEHEH ISOLATED FORMuFINAL FORMuINITIAL FORMuMEDIAL FORMoTTEHEH ISOLATED FORM",
    "vFINAL FORMvINITIAL FORMvMEDIAL FORMpEHEH ISOLATED FORMuFINAL FORMuINITIAL FORM",
    "uMEDIAL FORMpTEH ISOLATED FORMtFINAL FORMtINITIAL FORMtMEDIAL FORMoVEH ISOLATED FORM",
    "sFINAL FORMsINITIAL FORMsMEDIAL FORMoPEHEH ISOLATED FORMuFINAL FORMuINITIAL FORM",
    "uMEDIAL FORMoDYEH ISOLATED FORMtFINAL FORMtINITIAL FORMtMEDIAL FORMoNYEH ISOLATED FORM",
    "tFINAL FORMtINITIAL FORMtMEDIAL FORMoTCHEH ISOLATED FORMuFINAL FORMuINITIAL FORM",
    "uMEDIAL FORMtEH ISOLATED FORMwFINAL FORMwINITIAL FORMwMEDIAL FORMoDDAHAL ISOLATED FORM",
    "vFINAL FORMpAHAL ISOLATED FORMuFINAL FORMpUL ISOLATED FORMsFINAL FORMpDAL ISOLATED FORM",
    "tFINAL FORMoJEH ISOLATED FORMsFINAL FORMoRREH ISOLATED FORMtFINAL FORM",
    "oKEHEH ISOLATED FORMuFINAL FORMuINITIAL FORMuMEDIAL FORMoGAF ISOLATED FORMsFINAL FORM",
    "sINITIAL FORMsMEDIAL FORMpUEH ISOLATED FORMtFINAL FORMtINITIAL FORMtMEDIAL FORM",
    "oNGOEH ISOLATED FORMuFINAL FORMuINITIAL FORMuMEDIAL FORMpOON GHUNNA ISOLATED FORM",
    "z FINAL FORMoRNOON ISOLATED FORMuFINAL FORMuINITIAL FORMuMEDIAL FORM",
    "oHEH WITH YEH ABOVE ISOLATED FORMzH ABOVE FINAL FORMsGOAL ISOLATED FORMxFINAL FORM",
    "xINITIAL FORMxMEDIAL FORMsDOACHASHMEE ISOLATED FORMzHMEE FINAL FORMzHMEE INITIAL FORM",
    "zHMEE MEDIAL FORMoYEH BARREE ISOLATED FORMzFINAL FORMzWITH HAMZA ABOVE ISOLATED FORM",
    "zWITH HAMZA ABOVE FINAL FORMhSYMBOL DOT ABOVEsBELOWoTWO DOTS ABOVExBELOWpHREE DOTS ABOVE",
    "zBELOWzPOINTING DOWNWARDS ABOVEzPOINTING DOWNWARDS BELOWoFOUR DOTS ABOVEyBELOW",
    "oDOUBLE VERTICAL BAR BELOWoTWO DOTS VERTICALLY ABOVEzRTICALLY BELOWoRINGoSMALL TAH ABOVE",
    "yBELOWoWASLA ABOVE"]⟩,
  ⟨64467, ["aARABIC LETTER NG ISOLATED FORMrFINAL FORMrINITIAL FORMrMEDIAL FORM",
    "oU ISOLATED FORMqFINAL FORMoOE ISOLATED FORMrFINAL FORMoYU ISOLATED FORMrFINAL FORM",
    "oU WITH HAMZA ABOVE ISOLATED FORMoVE ISOLATED FORMrFINAL FORMoKIRGHIZ OE ISOLATED FORM",
    "zFINAL FORMwYU ISOLATED FORMzFINAL FORMoE ISOLATED FORMqFINAL FORMqINITIAL FORM",
    "qMEDIAL FORMoUIGHUR KAZAKH KIRGHIZ ALEF MAKSURA INITIAL FORM",
    "zKH KIRGHIZ ALEF MAKSURA MEDIAL FORMiIGATURE YEH WITH HAMZA ABOVE WITH ALEF ISOLATED FORM",
    "zHAMZA ABOVE WITH ALEF FINAL FORMzHAMZA ABOVE WITH AE ISOLATED FORM",
    "zHAMZA ABOVE WITH AE FINAL FORMzHAMZA ABOVE WITH WAW ISOLATED FORM",
    "zHAMZA ABOVE WITH WAW FINAL FORMzHAMZA ABOVE WITH U ISOLATED FORM",
    "zHAMZA ABOVE WITH U FINAL FORMzHAMZA ABOVE WITH OE ISOLATED FORM",
    "zHAMZA ABOVE WITH OE FINAL FORMzHAMZA ABOVE WITH YU ISOLATED FORM",
    "zHAMZA ABOVE WITH YU FINAL FORMzHAMZA ABOVE WITH E ISOLATED FORM",
    "zHAMZA ABOVE WITH E FINAL FORMzHAMZA ABOVE WITH E INITIAL FORM",
    "qUIGHUR KIRGHIZ YEH WITH HAMZA ABOVE WITH ALEF MAKSURA ISOLATED FORM",
    "zRGHIZ YEH WITH HAMZA ABOVE WITH ALEF MAKSURA FINAL FORM",
    "zRGHIZ YEH WITH HAMZA ABOVE WITH ALEF MAKSURA INITIAL FORMiETTER FARSI YEH ISOLATED FORM",
    "yFINAL FORMyINITIAL FORMyMEDIAL FORMiIGATURE YEH WITH HAMZA ABOVE WITH JEEM ISOLATED FORM",
    "zHAMZA ABOVE WITH HAH ISOLATED FORMzHAMZA ABOVE WITH MEEM ISOLATED FORM",
    "zHAMZA ABOVE WITH ALEF MAKSURA ISOLATED FORMzHAMZA ABOVE WITH YEH ISOLATED FORM",
    "qBEH WITH JEEM ISOLATED FORMzHAH ISOLATED FORMzKHAH ISOLATED FORMzMEEM ISOLATED FORM",
    "zALEF MAKSURA ISOLATED FORMzYEH ISOLATED FORMqTEH WITH JEEM ISOLATED FORM",
    "zHAH ISOLATED FORMzKHAH ISOLATED FORMzMEEM ISOLATED FORMzALEF MAKSURA ISOLATED FORM",
    "zYEH ISOLATED FORMrHEH WITH JEEM ISOLATED FORMz MEEM ISOLATED FORM",
    "z ALEF MAKSURA ISOLATED FORMz YEH ISOLATED FORMqJEEM WITH HAH ISOLATED FORM",
    "z MEEM ISOLATED FORMqHAH WITH JEEM ISOLATED FORMzMEEM ISOLATED FORM",
    "qKHAH WITH JEEM ISOLATED FORMz HAH ISOLATED FORMz MEEM ISOLATED FORM",
    "qSEEN WITH JEEM ISOLATED FORMz HAH ISOLATED FORMz KHAH ISOLATED FORMz MEEM ISOLATED FORM",
    "rAD WITH HAH ISOLATED FORMzMEEM ISOLATED FORMqDAD WITH JEEM ISOLATED FORM",
    "zHAH ISOLATED FORMzKHAH ISOLATED FORMzMEEM ISOLATED FORMqTAH WITH HAH ISOLATED FORM",
    "zMEEM ISOLATED FORMqZAH WITH MEEM ISOLATED FORMqAIN WITH JEEM ISOLATED FORM",
    "zMEEM ISOLATED FORMqGHAIN WITH JEEM ISOLATED FORMzH MEEM ISOLATED FORM",
    "qFEH WITH JEEM ISOLATED FORMzHAH ISOLATED FORMzKHAH ISOLATED FORMzMEEM ISOLATED FORM",
    "zALEF MAKSURA ISOLATED FORMzYEH ISOLATED FORMqQAF WITH HAH ISOLATED FORM",
    "zMEEM ISOLATED FORMzALEF MAKSURA ISOLATED FORMzYEH ISOLATED FORM",
    "qKAF WITH ALEF ISOLATED FORMzJEEM ISOLATED FORMzHAH ISOLATED FORMzKHAH ISOLATED FORM",
    "zLAM ISOLATED FORMzMEEM ISOLATED FORMzALEF MAKSURA ISOLATED FORMzYEH ISOLATED FORM",
    "qLAM WITH JEEM ISOLATED FORMzHAH ISOLATED FORMzKHAH ISOLATED FORMzMEEM ISOLATED FORM",
    "zALEF MAKSURA ISOLATED FORMzYEH ISOLATED FORMqMEEM WITH JEEM ISOLATED FORM",
    "z HAH ISOLATED FORMz KHAH ISOLATED FORMz MEEM ISOLATED FORMz ALEF MAKSURA ISOLATED FORM",
    "z YEH ISOLATED FORMqNOON WITH JEEM ISOLATED FORMz HAH ISOLATED FORMz KHAH ISOLATED FORM",
    "z MEEM ISOLATED FORMz ALEF MAKSURA ISOLATED FORMz YEH ISOLATED FORM",
    "qHEH WITH JEEM ISOLATED FORMzMEEM ISOLATED FORMzALEF MAKSURA ISOLATED FORM",
    "zYEH ISOLATED FORMqYEH WITH JEEM ISOLATED FORMzHAH ISOLATED FORMzKHAH ISOLATED FORM",
    "zMEEM ISOLATED FORMzALEF MAKSURA ISOLATED FORMzYEH ISOLATED FORM",
    "qTHAL WITH SUPERSCRIPT ALEF ISOLATED FORMqREH WITH SUPERSCRIPT ALEF ISOLATED FORM",
    "qALEF MAKSURA WITH SUPERSCRIPT ALEF ISOLATED FORMqSHADDA WITH DAMMATAN ISOLATED FORM",
    "zTH KASRATAN ISOLATED FORMzTH FATHA ISOLATED FORMzTH DAMMA ISOLATED FORM",
    "zTH KASRA ISOLATED FORMzTH SUPERSCRIPT ALEF ISOLATED FORM",
    "qYEH WITH HAMZA ABOVE WITH REH FINAL FORMzHAMZA ABOVE WITH ZAIN FINAL FORM",
    "zHAMZA ABOVE WITH MEEM FINAL FORMzHAMZA ABOVE WITH NOON FINAL FORM",
    "zHAMZA ABOVE WITH ALEF MAKSURA FINAL FORMzHAMZA ABOVE WITH YEH FINAL FORM",
    "qBEH WITH REH FINAL FORMzZAIN FINAL FORMzMEEM FINAL FORMzNOON FINAL FORM",
    "zALEF MAKSURA FINAL FORMzYEH FINAL FORMqTEH WITH REH FINAL FORMzZAIN FINAL FORM",
    "zMEEM FINAL FORMzNOON FINAL FORMzALEF MAKSURA FINAL FORMzYEH FINAL FORM",
    "rHEH WITH REH FINAL FORMz ZAIN FINAL FORMz MEEM FINAL FORMz NOON FINAL FORM",
    "z ALEF MAKSURA FINAL FORMz YEH FINAL FORMqFEH WITH ALEF MAKSURA FINAL FORMzYEH FINAL FORM",
    "qQAF WITH ALEF MAKSURA FINAL FORMzYEH FINAL FORMqKAF WITH ALEF FINAL FORMzLAM FINAL FORM",
    "zMEEM FINAL FORMzALEF MAKSURA FINAL FORMzYEH FINAL FORMqLAM WITH MEEM FINAL FORM",
    "zALEF MAKSURA FINAL FORMzYEH FINAL FORMqMEEM WITH ALEF FINAL FORMz MEEM FINAL FORM",
    "qNOON WITH REH FINAL FORMz ZAIN FINAL FORMz MEEM FINAL FORMz NOON FINAL FORM",
    "z ALEF MAKSURA FINAL FORMz YEH FINAL FORMqALEF MAKSURA WITH SUPERSCRIPT ALEF FINAL FORM",
    "qYEH WITH REH FINAL FORMzZAIN FINAL FORMzMEEM FINAL FORMzNOON FINAL FORM",
    "zALEF MAKSURA FINAL FORMzYEH FINAL FORMzHAMZA ABOVE WITH JEEM INITIAL FORM",
    "zHAMZA ABOVE WITH HAH INITIAL FORMzHAMZA ABOVE WITH KHAH INITIAL FORM",
    "zHAMZA ABOVE WITH MEEM INITIAL FORMzHAMZA ABOVE WITH HEH INITIAL FORM",
    "qBEH WITH JEEM INITIAL FORMzHAH INITIAL FORMzKHAH INITIAL FORMzMEEM INITIAL FORM",
    "zHEH INITIAL FORMqTEH WITH JEEM INITIAL FORMzHAH INITIAL FORMzKHAH INITIAL FORM",
    "zMEEM INITIAL FORMzHEH INITIAL FORMrHEH WITH MEEM INITIAL FORMqJEEM WITH HAH INITIAL FORM",
    "z MEEM INITIAL FORMqHAH WITH JEEM INITIAL FORMzMEEM INITIAL FORM",
    "qKHAH WITH JEEM INITIAL FORMz MEEM INITIAL FORMqSEEN WITH JEEM INITIAL FORM",
    "z HAH INITIAL FORMz KHAH INITIAL FORMz MEEM INITIAL FORMrAD WITH HAH INITIAL FORM",
    "zKHAH INITIAL FORMzMEEM INITIAL FORMqDAD WITH JEEM INITIAL FORMzHAH INITIAL FORM",
    "zKHAH INITIAL FORMzMEEM INITIAL FORMqTAH WITH HAH INITIAL FORMqZAH WITH MEEM INITIAL FORM",
    "qAIN WITH JEEM INITIAL FORMzMEEM INITIAL FORMqGHAIN WITH JEEM INITIAL FORM",
    "zH MEEM INITIAL FORMqFEH WITH JEEM INITIAL FORMzHAH INITIAL FORMzKHAH INITIAL FORM",
    "zMEEM INITIAL FORMqQAF WITH HAH INITIAL FORMzMEEM INITIAL FORMqKAF WITH JEEM INITIAL FORM",
    "zHAH INITIAL FORMzKHAH INITIAL FORMzLAM INITIAL FORMzMEEM INITIAL FORM",
    "qLAM WITH JEEM INITIAL FORMzHAH INITIAL FORMzKHAH INITIAL FORMzMEEM INITIAL FORM",
    "zHEH INITIAL FORMqMEEM WITH JEEM INITIAL FORMz HAH INITIAL FORMz KHAH INITIAL FORM",
    "z MEEM INITIAL FORMqNOON WITH JEEM INITIAL FORMz HAH INITIAL FORMz KHAH INITIAL FORM",
    "z MEEM INITIAL FORMz HEH INITIAL FORMqHEH WITH JEEM INITIAL FORMzMEEM INITIAL FORM",
    "zSUPERSCRIPT ALEF INITIAL FORMqYEH WITH JEEM INITIAL FORMzHAH INITIAL FORM",
    "zKHAH INITIAL FORMzMEEM INITIAL FORMzHEH INITIAL FORMzHAMZA ABOVE WITH MEEM MEDIAL FORM",
    "zHAMZA ABOVE WITH HEH MEDIAL FORMqBEH WITH MEEM MEDIAL FORMzHEH MEDIAL FORM",
    "qTEH WITH MEEM MEDIAL FORMzHEH MEDIAL FORMrHEH WITH MEEM MEDIAL FORMz HEH MEDIAL FORM",
    "qSEEN WITH MEEM MEDIAL FORMz HEH MEDIAL FORMrHEEN WITH MEEM MEDIAL FORMzH HEH MEDIAL FORM",
    "qKAF WITH LAM MEDIAL FORMzMEEM MEDIAL FORMqLAM WITH MEEM MEDIAL FORM",
    "qNOON WITH MEEM MEDIAL FORMz HEH MEDIAL FORMqYEH WITH MEEM MEDIAL FORMzHEH MEDIAL FORM",
    "qSHADDA WITH FATHA MEDIAL FORMzTH DAMMA MEDIAL FORMzTH KASRA MEDIAL FORM",
    "qTAH WITH ALEF MAKSURA ISOLATED FORMzYEH ISOLATED FORM",
    "qAIN WITH ALEF MAKSURA ISOLATED FORMzYEH ISOLATED FORM",
    "qGHAIN WITH ALEF MAKSURA ISOLATED FORMzH YEH ISOLATED FORM",
    "qSEEN WITH ALEF MAKSURA ISOLATED FORMz YEH ISOLATED FORM",
    "rHEEN WITH ALEF MAKSURA ISOLATED FORMzH YEH ISOLATED FORM",
    "qHAH WITH ALEF MAKSURA ISOLATED FORMzYEH ISOLATED FORM",
    "qJEEM WITH ALEF MAKSURA ISOLATED FORMz YEH ISOLATED FORM",
    "qKHAH WITH ALEF MAKSURA ISOLATED FORMz YEH ISOLATED FORM",
    "qSAD WITH ALEF MAKSURA ISOLATED FORMzYEH ISOLATED FORM",
    "qDAD WITH ALEF MAKSURA ISOLATED FORMzYEH ISOLATED FORMqSHEEN WITH JEEM ISOLATED FORM",
    "zH HAH ISOLATED FORMzH KHAH ISOLATED FORMzH MEEM ISOLATED FORMzH REH ISOLATED FORM",
    "rEEN WITH REH ISOLATED FORMrAD WITH REH ISOLATED FORMqDAD WITH REH ISOLATED FORM",
    "qTAH WITH ALEF MAKSURA FINAL FORMzYEH FINAL FORMqAIN WITH ALEF MAKSURA FINAL FORM",
    "zYEH FINAL FORMqGHAIN WITH ALEF MAKSURA FINAL FORMzH YEH FINAL FORM",
    "qSEEN WITH ALEF MAKSURA FINAL FORMz YEH FINAL FORMrHEEN WITH ALEF MAKSURA FINAL FORM",
    "zH YEH FINAL FORMqHAH WITH ALEF MAKSURA FINAL FORMzYEH FINAL FORM",
    "qJEEM WITH ALEF MAKSURA FINAL FORMz YEH FINAL FORMqKHAH WITH ALEF MAKSURA FINAL FORM",
    "z YEH FINAL FORMqSAD WITH ALEF MAKSURA FINAL FORMzYEH FINAL FORM",
    "qDAD WITH ALEF MAKSURA FINAL FORMzYEH FINAL FORMqSHEEN WITH JEEM FINAL FORM",
    "zH HAH FINAL FORMzH KHAH FINAL FORMzH MEEM FINAL FORMzH REH FINAL FORM",
    "rEEN WITH REH FINAL FORMrAD WITH REH FINAL FORMqDAD WITH REH FINAL FORM",
    "qSHEEN WITH JEEM INITIAL FORMzH HAH INITIAL FORMzH KHAH INITIAL FORMzH MEEM INITIAL FORM",
    "rEEN WITH HEH INITIAL FORMrHEEN WITH HEH INITIAL FORMqTAH WITH MEEM INITIAL FORM",
    "qSEEN WITH JEEM MEDIAL FORMz HAH MEDIAL FORMz KHAH MEDIAL FORMrHEEN WITH JEEM MEDIAL FORM",
    "zH HAH MEDIAL FORMzH KHAH MEDIAL FORMqTAH WITH MEEM MEDIAL FORMqZAH WITH MEEM MEDIAL FORM",
    "qALEF WITH FATHATAN FINAL FORMz FATHATAN ISOLATED FORMaORNATE LEFT PARENTHESIS",
    "hRIGHT PARENTHESISaARABIC LIGATURE RAHIMAHU ALLAAHsDI ALLAAHU ANHzAHU ANHAAzAHU ANHUM",
    "zAHU ANHUMAAzAHU ANHUNNAqSALLALLAAHU ALAYHI WA-AALIHqALAYHI AS-SALAAMwM AS-SALAAM",
    "xAA AS-SALAAMw AS-SALAATU WAS-SALAAMqQUDDISA SIRRAHqSALLALLAHU ALAYHI WAAALIHEE WA-SALLAM",
    "qALAYHAA AS-SALAAMqTABAARAKA WA-TAAALAAqRAHIMAHUM ALLAAH",
    "qTEH WITH JEEM WITH MEEM INITIAL FORMzHAH WITH JEEM FINAL FORMzHAH WITH JEEM INITIAL FORM",
    "zHAH WITH MEEM INITIAL FORMzKHAH WITH MEEM INITIAL FORMzMEEM WITH JEEM INITIAL FORM",
    "zMEEM WITH HAH INITIAL FORMzMEEM WITH KHAH INITIAL FORM",
    "qJEEM WITH MEEM WITH HAH FINAL FORMz MEEM WITH HAH INITIAL FORM",
    "qHAH WITH MEEM WITH YEH FINAL FORMzMEEM WITH ALEF MAKSURA FINAL FORM",
    "qSEEN WITH HAH WITH JEEM INITIAL FORMz JEEM WITH HAH INITIAL FORM",
    "z JEEM WITH ALEF MAKSURA FINAL FORMz MEEM WITH HAH FINAL FORMz MEEM WITH HAH INITIAL FORM",
    "z MEEM WITH JEEM INITIAL FORMz MEEM WITH MEEM FINAL FORMz MEEM WITH MEEM INITIAL FORM",
    "rAD WITH HAH WITH HAH FINAL FORMzHAH WITH HAH INITIAL FORMzMEEM WITH MEEM FINAL FORM",
    "rHEEN WITH HAH WITH MEEM FINAL FORMzH HAH WITH MEEM INITIAL FORM",
    "zH JEEM WITH YEH FINAL FORMzH MEEM WITH KHAH FINAL FORMzH MEEM WITH KHAH INITIAL FORM",
    "zH MEEM WITH MEEM FINAL FORMzH MEEM WITH MEEM INITIAL FORM",
    "qDAD WITH HAH WITH ALEF MAKSURA FINAL FORMzKHAH WITH MEEM FINAL FORM",
    "zKHAH WITH MEEM INITIAL FORMqTAH WITH MEEM WITH HAH FINAL FORMzMEEM WITH HAH INITIAL FORM",
    "zMEEM WITH MEEM INITIAL FORMzMEEM WITH YEH FINAL FORMqAIN WITH JEEM WITH MEEM FINAL FORM",
    "zMEEM WITH MEEM FINAL FORMzMEEM WITH MEEM INITIAL FORMzMEEM WITH ALEF MAKSURA FINAL FORM",
    "qGHAIN WITH MEEM WITH MEEM FINAL FORMzH MEEM WITH YEH FINAL FORM",
    "zH MEEM WITH ALEF MAKSURA FINAL FORMqFEH WITH KHAH WITH MEEM FINAL FORM",
    "zKHAH WITH MEEM INITIAL FORMqQAF WITH MEEM WITH HAH FINAL FORMzMEEM WITH MEEM FINAL FORM",
    "qLAM WITH HAH WITH MEEM FINAL FORMzHAH WITH YEH FINAL FORM",
    "zHAH WITH ALEF MAKSURA FINAL FORMzJEEM WITH JEEM INITIAL FORMzJEEM WITH JEEM FINAL FORM",
    "zKHAH WITH MEEM FINAL FORMzKHAH WITH MEEM INITIAL FORMzMEEM WITH HAH FINAL FORM",
    "zMEEM WITH HAH INITIAL FORMqMEEM WITH HAH WITH JEEM INITIAL FORM",
    "z HAH WITH MEEM INITIAL FORMz HAH WITH YEH FINAL FORMz JEEM WITH HAH INITIAL FORM",
    "z JEEM WITH MEEM INITIAL FORMz KHAH WITH JEEM INITIAL FORMz KHAH WITH MEEM INITIAL FORM"]⟩,
  ⟨64914, ["aARABIC LIGATURE MEEM WITH JEEM WITH KHAH INITIAL FORM",
    "qHEH WITH MEEM WITH JEEM INITIAL FORMzMEEM WITH MEEM INITIAL FORM",
    "qNOON WITH HAH WITH MEEM INITIAL FORMz HAH WITH ALEF MAKSURA FINAL FORM",
    "z JEEM WITH MEEM FINAL FORMz JEEM WITH MEEM INITIAL FORM",
    "z JEEM WITH ALEF MAKSURA FINAL FORMz MEEM WITH YEH FINAL FORM",
    "z MEEM WITH ALEF MAKSURA FINAL FORMqYEH WITH MEEM WITH MEEM FINAL FORM",
    "zMEEM WITH MEEM INITIAL FORMqBEH WITH KHAH WITH YEH FINAL FORM",
    "qTEH WITH JEEM WITH YEH FINAL FORMzJEEM WITH ALEF MAKSURA FINAL FORM",
    "zKHAH WITH YEH FINAL FORMzKHAH WITH ALEF MAKSURA FINAL FORMzMEEM WITH YEH FINAL FORM",
    "zMEEM WITH ALEF MAKSURA FINAL FORMqJEEM WITH MEEM WITH YEH FINAL FORM",
    "z HAH WITH ALEF MAKSURA FINAL FORMz MEEM WITH ALEF MAKSURA FINAL FORM",
    "qSEEN WITH KHAH WITH ALEF MAKSURA FINAL FORMrAD WITH HAH WITH YEH FINAL FORM",
    "rHEEN WITH HAH WITH YEH FINAL FORMqDAD WITH HAH WITH YEH FINAL FORM",
    "qLAM WITH JEEM WITH YEH FINAL FORMzMEEM WITH YEH FINAL FORM",
    "qYEH WITH HAH WITH YEH FINAL FORMzJEEM WITH YEH FINAL FORMzMEEM WITH YEH FINAL FORM",
    "qMEEM WITH MEEM WITH YEH FINAL FORMqQAF WITH MEEM WITH YEH FINAL FORM",
    "qNOON WITH HAH WITH YEH FINAL FORMqQAF WITH MEEM WITH HAH INITIAL FORM",
    "qLAM WITH HAH WITH MEEM INITIAL FORMqAIN WITH MEEM WITH YEH FINAL FORM",
    "qKAF WITH MEEM WITH YEH FINAL FORMqNOON WITH JEEM WITH HAH INITIAL FORM",
    "qMEEM WITH KHAH WITH YEH FINAL FORMqLAM WITH JEEM WITH MEEM INITIAL FORM",
    "qKAF WITH MEEM WITH MEEM FINAL FORMqLAM WITH JEEM WITH MEEM FINAL FORM",
    "qNOON WITH JEEM WITH HAH FINAL FORMqJEEM WITH HAH WITH YEH FINAL FORM",
    "qHAH WITH JEEM WITH YEH FINAL FORMqMEEM WITH JEEM WITH YEH FINAL FORM",
    "qFEH WITH MEEM WITH YEH FINAL FORMqBEH WITH HAH WITH YEH FINAL FORM",
    "qKAF WITH MEEM WITH MEEM INITIAL FORMqAIN WITH JEEM WITH MEEM INITIAL FORM",
    "qSAD WITH MEEM WITH MEEM INITIAL FORMrEEN WITH KHAH WITH YEH FINAL FORM",
    "qNOON WITH JEEM WITH YEH FINAL FORM"]⟩,
  ⟨64975, ["aARABIC LIGATURE SALAAMUHU ALAYNAA"]⟩,
  ⟨65008, ["aARABIC LIGATURE SALLA USED AS KORANIC STOP SIGN ISOLATED FORM",
    "qQALA USED AS KORANIC STOP SIGN ISOLATED FORMqALLAH ISOLATED FORMrKBAR ISOLATED FORM",
    "qMOHAMMAD ISOLATED FORMqSALAM ISOLATED FORMqRASOUL ISOLATED FORMqALAYHE ISOLATED FORM",
    "qWASALLAM ISOLATED FORMqSALLA ISOLATED FORMvLLAHOU ALAYHE WASALLAMqJALLAJALALOUHOU",
    "aRIAL SIGNaARABIC LIGATURE BISMILLAH AR-RAHMAN AR-RAHEEMqSUBHAANAHU WA TAAALAA",
    "qAZZA WA JALLaVARIATION SELECTOR-1t2t3t4t5t6t7t8t9t10u1u2u3u4u5u6",
    "aPRESENTATION FORM FOR VERTICAL COMMAzTICAL IDEOGRAPHIC COMMAzTICAL IDEOGRAPHIC FULL STOP",
    "zTICAL COLONzTICAL SEMICOLONzTICAL EXCLAMATION MARKzTICAL QUESTION MARK",
    "zTICAL LEFT WHITE LENTICULAR BRACKETzTICAL RIGHT WHITE LENTICULAR BRAKCET",
    "zTICAL HORIZONTAL ELLIPSIS"]⟩,
  ⟨65056, ["aCOMBINING LIGATURE LEFT HALFtRIGHT HALFkDOUBLE TILDE LEFT HALFxRIGHT HALF",
    "kMACRON LEFT HALFrRIGHT HALFkCONJOINING MACRONkLIGATURE LEFT HALF BELOWtRIGHT HALF BELOW",
    "kTILDE LEFT HALF BELOWqRIGHT HALF BELOWkMACRON LEFT HALF BELOWrRIGHT HALF BELOW",
    "kCONJOINING MACRON BELOWlYRILLIC TITLO LEFT HALFzRIGHT HALF",
    "aPRESENTATION FORM FOR VERTICAL TWO DOT LEADERzTICAL EM DASHzTICAL EN DASHzTICAL LOW LINE",
    "zTICAL WAVY LOW LINEzTICAL LEFT PARENTHESISzTICAL RIGHT PARENTHESIS",
    "zTICAL LEFT CURLY BRACKETzTICAL RIGHT CURLY BRACKETzTICAL LEFT TORTOISE SHELL BRACKET",
    "zTICAL RIGHT TORTOISE SHELL BRACKETzTICAL LEFT BLACK LENTICULAR BRACKET",
    "zTICAL RIGHT BLACK LENTICULAR BRACKETzTICAL LEFT DOUBLE ANGLE BRACKET",
    "zTICAL RIGHT DOUBLE ANGLE BRACKETzTICAL LEFT ANGLE BRACKETzTICAL RIGHT ANGLE BRACKET",
    "zTICAL LEFT CORNER BRACKETzTICAL RIGHT CORNER BRACKETzTICAL LEFT WHITE CORNER BRACKET",
    "zTICAL RIGHT WHITE CORNER BRACKETaSESAME DOTaWHITE SESAME DOT",
    "aPRESENTATION FORM FOR VERTICAL LEFT SQUARE BRACKETzTICAL RIGHT SQUARE BRACKET",
    "aDASHED OVERLINEaCENTRELINE OVERLINEaWAVY OVERLINEaDOUBLE WAVY OVERLINEbASHED LOW LINE",
    "aCENTRELINE LOW LINEaWAVY LOW LINEaSMALL COMMAgIDEOGRAPHIC COMMAgFULL STOP"]⟩,
  ⟨65108, ["aSMALL SEMICOLONgCOLONgQUESTION MARKgEXCLAMATION MARKhM DASHgLEFT PARENTHESIS",
    "gRIGHT PARENTHESISgLEFT CURLY BRACKETgRIGHT CURLY BRACKETgLEFT TORTOISE SHELL BRACKET",
    "gRIGHT TORTOISE SHELL BRACKETgNUMBER SIGNgAMPERSANDhSTERISKgPLUS SIGNgHYPHEN-MINUS",
    "gLESS-THAN SIGNgGREATER-THAN SIGNgEQUALS SIGN"]⟩,
  ⟨65128, ["aSMALL REVERSE SOLIDUSgDOLLAR SIGNgPERCENT SIGNgCOMMERCIAL AT"]⟩,
  ⟨65136, ["aARABIC FATHATAN ISOLATED FORMhTATWEEL WITH FATHATAN ABOVEhDAMMATAN ISOLATED FORM",
    "hTAIL FRAGMENThKASRATAN ISOLATED FORM"]⟩,
  ⟨65142, ["aARABIC FATHA ISOLATED FORMnMEDIAL FORMhDAMMA ISOLATED FORMnMEDIAL FORM",
    "hKASRA ISOLATED FORMnMEDIAL FORMhSHADDA ISOLATED FORMoMEDIAL FORMiUKUN ISOLATED FORM",
    "nMEDIAL FORMhLETTER HAMZA ISOLATED FORMoALEF WITH MADDA ABOVE ISOLATED FORM",
    "zADDA ABOVE FINAL FORMyHAMZA ABOVE ISOLATED FORMzAMZA ABOVE FINAL FORM",
    "oWAW WITH HAMZA ABOVE ISOLATED FORMzMZA ABOVE FINAL FORM",
    "oALEF WITH HAMZA BELOW ISOLATED FORMzAMZA BELOW FINAL FORM",
    "oYEH WITH HAMZA ABOVE ISOLATED FORMzMZA ABOVE FINAL FORMzMZA ABOVE INITIAL FORM",
    "zMZA ABOVE MEDIAL FORMoALEF ISOLATED FORMtFINAL FORMoBEH ISOLATED FORMsFINAL FORM",
    "sINITIAL FORMsMEDIAL FORMoTEH MARBUTA ISOLATED FORMz FINAL FORMsISOLATED FORMsFINAL FORM",
    "sINITIAL FORMsMEDIAL FORMpHEH ISOLATED FORMtFINAL FORMtINITIAL FORMtMEDIAL FORM",
    "oJEEM ISOLATED FORMtFINAL FORMtINITIAL FORMtMEDIAL FORMoHAH ISOLATED FORMsFINAL FORM",
    "sINITIAL FORMsMEDIAL FORMoKHAH ISOLATED FORMtFINAL FORMtINITIAL FORMtMEDIAL FORM",
    "oDAL ISOLATED FORMsFINAL FORMoTHAL ISOLATED FORMtFINAL FORMoREH ISOLATED FORMsFINAL FORM",
    "oZAIN ISOLATED FORMtFINAL FORMoSEEN ISOLATED FORMtFINAL FORMtINITIAL FORMtMEDIAL FORM",
    "pHEEN ISOLATED FORMuFINAL FORMuINITIAL FORMuMEDIAL FORMpAD ISOLATED FORMsFINAL FORM",
    "sINITIAL FORMsMEDIAL FORMoDAD ISOLATED FORMsFINAL FORMsINITIAL FORMsMEDIAL FORM",
    "oTAH ISOLATED FORMsFINAL FORMsINITIAL FORMsMEDIAL FORMoZAH ISOLATED FORMsFINAL FORM",
    "sINITIAL FORMsMEDIAL FORMoAIN ISOLATED FORMsFINAL FORMsINITIAL FORMsMEDIAL FORM",
    "oGHAIN ISOLATED FORMuFINAL FORMuINITIAL FORMuMEDIAL FORMoFEH ISOLATED FORMsFINAL FORM",
    "sINITIAL FORMsMEDIAL FORMoQAF ISOLATED FORMsFINAL FORMsINITIAL FORMsMEDIAL FORM",
    "oKAF ISOLATED FORMsFINAL FORMsINITIAL FORMsMEDIAL FORMoLAM ISOLATED FORMsFINAL FORM",
    "sINITIAL FORMsMEDIAL FORMoMEEM ISOLATED FORMtFINAL FORMtINITIAL FORMtMEDIAL FORM",
    "oNOON ISOLATED FORMtFINAL FORMtINITIAL FORMtMEDIAL FORMoHEH ISOLATED FORMsFINAL FORM",
    "sINITIAL FORMsMEDIAL FORMoWAW ISOLATED FORMsFINAL FORMoALEF MAKSURA ISOLATED FORM",
    "zA FINAL FORMoYEH ISOLATED FORMsFINAL FORMsINITIAL FORMsMEDIAL FORM",
    "iIGATURE LAM WITH ALEF WITH MADDA ABOVE ISOLATED FORMzALEF WITH MADDA ABOVE FINAL FORM",
    "zALEF WITH HAMZA ABOVE ISOLATED FORMzALEF WITH HAMZA ABOVE FINAL FORM",
    "zALEF WITH HAMZA BELOW ISOLATED FORMzALEF WITH HAMZA BELOW FINAL FORMzALEF ISOLATED FORM",
    "zALEF FINAL FORM"]⟩,
  ⟨65279, ["aZERO WIDTH NO-BREAK SPACE"]⟩,
  ⟨65281, ["aFULLWIDTH EXCLAMATION MARKkQUOTATION MARKkNUMBER SIGNkDOLLAR SIGNkPERCENT SIGN",
    "kAMPERSANDlPOSTROPHEkLEFT PARENTHESISkRIGHT PARENTHESISkASTERISKkPLUS SIGNkCOMMA",
    "kHYPHEN-MINUSkFULL STOPkSOLIDUSkDIGIT ZEROqONEqTWOrHREEqFOURrIVEqSIXrEVENqEIGHTqNINE",
    "kCOLONkSEMICOLONkLESS-THAN SIGNkEQUALS SIGNkGREATER-THAN SIGNkQUESTION MARKkCOMMERCIAL AT",
    "kLATIN CAPITAL LETTER AzETTER BzETTER CzETTER DzETTER EzETTER FzETTER GzETTER HzETTER I",
    "zETTER JzETTER KzETTER LzETTER MzETTER NzETTER OzETTER PzETTER QzETTER RzETTER SzETTER T",
    "zETTER UzETTER VzETTER WzETTER XzETTER YzETTER ZlEFT SQUARE BRACKETkREVERSE SOLIDUS",
    "lIGHT SQUARE BRACKETkCIRCUMFLEX ACCENTkLOW LINEkGRAVE ACCENTkLATIN SMALL LETTER AzTER B",
    "zTER CzTER DzTER EzTER FzTER GzTER HzTER IzTER JzTER KzTER LzTER MzTER NzTER OzTER P",
    "zTER QzTER RzTER SzTER TzTER UzTER VzTER WzTER XzTER YzTER ZlEFT CURLY BRACKET",
    "kVERTICAL LINEkRIGHT CURLY BRACKETkTILDEkLEFT WHITE PARENTHESISkRIGHT WHITE PARENTHESIS",
    "aHALFWIDTH IDEOGRAPHIC FULL STOPkLEFT CORNER BRACKETkRIGHT CORNER BRACKET",
    "kIDEOGRAPHIC COMMAkKATAKANA MIDDLE DOTtLETTER WOz SMALL Az SMALL Iz SMALL Uz SMALL E",
    "z SMALL Oz SMALL YAz SMALL YUz SMALL YOz SMALL TUs-HIRAGANA PROLONGED SOUND MARK",
    "s LETTER Az Iz Uz Ez Oz KAz KIz KUz KEz KOz SAz SIz SUz SEz SOz TAz TIz TUz TEz TOz NA",
    "z NIz NUz NEz NOz HAz HIz HUz HEz HOz MAz MIz MUz MEz MOz YAz YUz YOz RAz RIz RUz REz RO",
    "z WAz NtVOICED SOUND MARKtSEMI-VOICED SOUND MARKkHANGUL FILLERrLETTER KIYEOKySSANGKIYEOK",
    "yKIYEOK-SIOSyNIEUNzIEUN-CIEUCzIEUN-HIEUHyTIKEUTySSANGTIKEUTyRIEULzIEUL-KIYEOKzIEUL-MIEUM",
    "zIEUL-PIEUPzIEUL-SIOSzIEUL-THIEUTHzIEUL-PHIEUPHzIEUL-HIEUHyMIEUMyPIEUPySSANGPIEUP",
    "yPIEUP-SIOSySIOSzSANGSIOSyIEUNGyCIEUCySSANGCIEUCyCHIEUCHyKHIEUKHyTHIEUTHyPHIEUPHyHIEUH"]⟩,
  ⟨65474, ["aHALFWIDTH HANGUL LETTER AzEyYAzAEyEOz"]⟩,
  ⟨65482, ["aHALFWIDTH HANGUL LETTER YEOzEyOyWAzAEyOE"]⟩,
  ⟨65490, ["aHALFWIDTH HANGUL LETTER YOyUyWEOzEzIyYU"]⟩,
  ⟨65498, ["aHALFWIDTH HANGUL LETTER EUyYIyI"]⟩,
  ⟨65504, ["aFULLWIDTH CENT SIGNkPOUND SIGNkNOT SIGNkMACRONkBROKEN BARkYEN SIGNkWON SIGN"]⟩,
  ⟨65512, ["aHALFWIDTH FORMS LIGHT VERTICALkLEFTWARDS ARROWkUPWARDS ARROWkRIGHTWARDS ARROW",
    "kDOWNWARDS ARROWkBLACK SQUAREkWHITE CIRCLE"]⟩,
  ⟨65529, ["aINTERLINEAR ANNOTATION ANCHORxSEPARATORxTERMINATORaOBJECT REPLACEMENT CHARACTER",
    "aREPLACEMENT CHARACTER"]⟩]

end LineScript.Text
