import LineScript.Text.CharacterName.Block

/-!
Names of the characters from Burmese to extended Greek: jamo, Ethiopic, the syllabaries of North
America, runes, the scripts of South East Asia, and phonetic extensions.
-/

namespace LineScript.Text

def syllabaryNames : Array NameBlock := #[
  ⟨4096, ["aMYANMAR LETTER KAqHApGAqHApNGApCAqHApJAqHApNYAqNYApTTArHApDDArHApNNApTAqHApDAqHA",
    "pNApPAqHApBAqHApMApYApRApLApWApSApHApLLApApSHAN ApIqIpUqUpEpMON EpOpAUiVOWEL SIGN TALL AA",
    "tAAtIuItUuUtEtAItMON IIxOtE ABOVEiSIGN ANUSVARAnDOT BELOWnVISARGApRAMAnASAT",
    "iCONSONANT SIGN MEDIAL YAzDIAL RAzDIAL WAzDIAL HAiLETTER GREAT SAiDIGIT ZEROoONEoTWOpHREE",
    "oFOURpIVEoSIXpEVENoEIGHToNINEiSIGN LITTLE SECTIONnSECTIONjYMBOL LOCATIVEpCOMPLETED",
    "pAFOREMENTIONEDpGENITIVEiLETTER SHAqSApVOCALIC RyRxLyLiVOWEL SIGN VOCALIC RzC RRzC LzC LL",
    "iLETTER MON NGAtJHAtBBAvEiCONSONANT SIGN MON MEDIAL NAzN MEDIAL MAzN MEDIAL LA",
    "iLETTER SGAW KAREN SHAiVOWEL SIGN SGAW KAREN EUiTONE MARK SGAW KAREN HATHIzREN KE PHO",
    "iLETTER WESTERN PWO KAREN THAzO KAREN PWAiVOWEL SIGN WESTERN PWO KAREN EUzN PWO KAREN UE",
    "iSIGN WESTERN PWO KAREN TONE-1zKAREN TONE-2zKAREN TONE-3zKAREN TONE-4zKAREN TONE-5",
    "iLETTER EASTERN PWO KAREN NNAzO KAREN YWAzO KAREN GHWAiVOWEL SIGN GEBA KAREN ItKAYAH OEzU",
    "zEEiLETTER SHAN KAvHAuGAuCAuZAuNYAuDAuNAuPHAuFAuBAuTHAuHAiCONSONANT SIGN SHAN MEDIAL WA",
    "iVOWEL SIGN SHAN AAyEz ABOVEyFINAL YiSIGN SHAN TONE-2x3x5x6sCOUNCIL TONE-2z TONE-3",
    "z EMPHATIC TONEiLETTER RUMAI PALAUNG FAiSIGN RUMAI PALAUNG TONE-5jHAN DIGIT ZEROtONEtTWO",
    "uHREEtFOURuIVEtSIXuEVENtEIGHTtNINEjIGN KHAMTI TONE-1z3iVOWEL SIGN AITON AzAI",
    "iSYMBOL SHAN ONEuEXCLAMATIONaGEORGIAN CAPITAL LETTER ANyBANyGANyDONyENyVINyZENyTANyINyKAN",
    "yLASyMANyNARyONyPARyZHARyRAEySANyTARyUNyPHARyKHARyGHANyQARySHINyCHINzANyJILyCILzHARyXAN",
    "yJHANyHAEzEzIEyWEyHARzOE"]⟩,
  ⟨4295, ["aGEORGIAN CAPITAL LETTER YN"]⟩,
  ⟨4301, ["aGEORGIAN CAPITAL LETTER AEN"]⟩,
  ⟨4304, ["aGEORGIAN LETTER ANqBANqGANqDONqENqVINqZENqTANqINqKANqLASqMANqNARqONqPARqZHARqRAE",
    "qSANqTARqUNqPHARqKHARqGHANqQARqSHINqCHINrANqJILqCILrHARqXANqJHANqHAErErIEqWEqHARrOEqFIqYN",
    "qELIFIqTURNED GANqAINjPARAGRAPH SEPARATORaMODIFIER LETTER GEORGIAN NAR",
    "aGEORGIAN LETTER AENqHARD SIGNqLABIAL SIGNaHANGUL CHOSEONG KIYEOKqSSANGKIYEOKqNIEUN",
    "qTIKEUTqSSANGTIKEUTqRIEULqMIEUMqPIEUPqSSANGPIEUPrIOSrSANGSIOSqIEUNGqCIEUCqSSANGCIEUC",
    "qCHIEUCHqKHIEUKHqTHIEUTHqPHIEUPHqHIEUHqNIEUN-KIYEOKqSSANGNIEUNqNIEUN-TIKEUTwPIEUP",
    "qTIKEUT-KIYEOKqRIEUL-NIEUNqSSANGRIEULqRIEUL-HIEUHqKAPYEOUNRIEULqMIEUM-PIEUPqKAPYEOUNMIEUM",
    "qPIEUP-KIYEOKwNIEUNwTIKEUTwSIOSzS-KIYEOKzS-TIKEUTzS-PIEUPxSANGSIOSxIOS-CIEUCwCIEUCxHIEUCH",
    "wTHIEUTHwPHIEUPHqKAPYEOUNPIEUPySSANGPIEUPqSIOS-KIYEOKvNIEUNvTIKEUTvRIEULvMIEUMvPIEUP",
    "zP-KIYEOKvSSANGSIOSvIEUNGvCIEUCwHIEUCHvKHIEUKHvTHIEUTHvPHIEUPHvHIEUHqCHITUEUMSIOS",
    "zSANGSIOSrEONGCHIEUMSIOSzUMSSANGSIOSqPANSIOSqIEUNG-KIYEOKwTIKEUTwMIEUMwPIEUPwSIOSwPANSIOS",
    "qSSANGIEUNGqIEUNG-CIEUCxHIEUCHwTHIEUTHwPHIEUPHqYESIEUNGqCIEUC-IEUNGrHITUEUMCIEUC",
    "ySSANGCIEUCrEONGCHIEUMCIEUCzUMSSANGCIEUCrHIEUCH-KHIEUKHyHIEUHtTUEUMCHIEUCH",
    "rEONGCHIEUMCHIEUCHqPHIEUPH-PIEUPqKAPYEOUNPHIEUPHqSSANGHIEUHqYEORINHIEUHqKIYEOK-TIKEUT",
    "qNIEUN-SIOSwCIEUCwHIEUHqTIKEUT-RIEULqFILLERhJUNGSEONG FILLERrAsErYAtErEOsrYEOtrOrWAtErOE",
    "rYOrUrWEOtsIrYUrEUrYIrIrA-OtUrYA-OuYOrEO-OuUuEUrYEO-OvUrO-EOutYEtOtUrYO-YAwEvEOuOuIrU-AuE",
    "tEO-EUtYEtUrYU-AuEOvuYEOwuUuIrEU-UuEUrYI-UrI-AtYAtOtUtEUtARAEArARAEAw-EOxUxIrSSANGARAEA",
    "rA-EUrYA-UsEO-YArO-YAvEiONGSEONG KIYEOKrSSANGKIYEOKrKIYEOK-SIOSrNIEUNw-CIEUCxHIEUHrTIKEUT",
    "rRIEULw-KIYEOKxMIEUMxPIEUPxSIOSxTHIEUTHxPHIEUPHxHIEUHrMIEUMrPIEUPw-SIOSrSIOSsSANGSIOS",
    "rIEUNGrCIEUCsHIEUCHrKHIEUKHrTHIEUTHrPHIEUPHrHIEUHrKIYEOK-RIEULySIOS-KIYEOKrNIEUN-KIYEOK",
    "xTIKEUTxSIOSxPANSIOSxTHIEUTHrTIKEUT-KIYEOKyRIEULrRIEUL-KIYEOK-SIOSxNIEUNxTIKEUT",
    "zKEUT-HIEUHrSSANGRIEULrRIEUL-MIEUM-KIYEOKzEUM-SIOSxPIEUP-SIOSzEUP-HIEUHxKAPYEOUNPIEUP",
    "xSSANGSIOSxPANSIOSxKHIEUKHxYEORINHIEUHrMIEUM-KIYEOKxRIEULxPIEUPxSIOSySANGSIOSxPANSIOS",
    "xCHIEUCHxHIEUHrKAPYEOUNMIEUMrPIEUP-RIEULxPHIEUPHxHIEUHrKAPYEOUNPIEUPrSIOS-KIYEOKwTIKEUT",
    "wRIEULwPIEUPrPANSIOSrIEUNG-KIYEOKxSSANGKIYEOKrSSANGIEUNGrIEUNG-KHIEUKHrYESIEUNGz-SIOS",
    "z-PANSIOSrPHIEUPH-PIEUPrKAPYEOUNPHIEUPHrHIEUH-NIEUNxRIEULxMIEUMxPIEUPrYEORINHIEUH",
    "rKIYEOK-NIEUNyPIEUPyCHIEUCHyKHIEUKHyHIEUHrSSANGNIEUNaETHIOPIC SYLLABLE HAtUtItAAtEEutOuA",
    "sLAtUtItAAtEEutOtWAsHHAuUuIuAAuEEvuOuWAsMAtUtItAAtEEutOtWAsSZAuUuIuAAuEEvuOuWAsRAtUtItAA",
    "tEEutOtWAsSAtUtItAAtEEutOtWAtHAuUuIuAAuEEvuOuWAsQAtUtItAAtEEutOuAtWA"]⟩,
  ⟨4682, ["aETHIOPIC SYLLABLE QWIuAAuEEv"]⟩,
  ⟨4688, ["aETHIOPIC SYLLABLE QHAuUuIuAAuEEvuO"]⟩,
  ⟨4696, ["aETHIOPIC SYLLABLE QHWA"]⟩,
  ⟨4698, ["aETHIOPIC SYLLABLE QHWIvAAvEEw"]⟩,
  ⟨4704, ["aETHIOPIC SYLLABLE BAtUtItAAtEEutOtWAsVAtUtItAAtEEutOtWAsTAtUtItAAtEEutOtWAsCAtUtI",
    "tAAtEEutOtWAsXAtUtItAAtEEutOuAtWA"]⟩,
  ⟨4746, ["aETHIOPIC SYLLABLE XWIuAAuEEv"]⟩,
  ⟨4752, ["aETHIOPIC SYLLABLE NAtUtItAAtEEutOtWAtYAuUuIuAAuEEvuOuWAsGLOTTAL Az Uz Iz AAz EEz E",
    "z Oz WAsKAtUtItAAtEEutOuAtWA"]⟩,
  ⟨4786, ["aETHIOPIC SYLLABLE KWIuAAuEEv"]⟩,
  ⟨4792, ["aETHIOPIC SYLLABLE KXAuUuIuAAuEEvuO"]⟩,
  ⟨4800, ["aETHIOPIC SYLLABLE KXWA"]⟩,
  ⟨4802, ["aETHIOPIC SYLLABLE KXWIvAAvEEw"]⟩,
  ⟨4808, ["aETHIOPIC SYLLABLE WAtUtItAAtEEutOuAsPHARYNGEAL AzEAL UzEAL IzEAL AAzEAL EEzEAL E",
    "zEAL O"]⟩,
  ⟨4824, ["aETHIOPIC SYLLABLE ZAtUtItAAtEEutOtWAtHAuUuIuAAuEEvuOuWAsYAtUtItAAtEEutOuAsDAtUtI",
    "tAAtEEutOtWAtDAuUuIuAAuEEvuOuWAsJAtUtItAAtEEutOtWAsGAtUtItAAtEEutOuAtWA"]⟩,
  ⟨4882, ["aETHIOPIC SYLLABLE GWIuAAuEEv"]⟩,
  ⟨4888, ["aETHIOPIC SYLLABLE GGAuUuIuAAuEEvuOuWAAsTHAuUuIuAAuEEvuOuWAsCHAuUuIuAAuEEvuOuWAsPHA",
    "uUuIuAAuEEvuOuWAsTSAuUuIuAAuEEvuOuWAtZAuUuIuAAuEEvuOvAsFAtUtItAAtEEutOtWAsPAtUtItAAtEEutO",
    "tWAsRYAsMYAsFYA"]⟩,
  ⟨4957, ["aETHIOPIC COMBINING GEMINATION AND VOWEL LENGTH MARKtVOWEL LENGTH MARK",
    "tGEMINATION MARKjSECTION MARKjWORDSPACEjFULL STOPjCOMMAjSEMICOLONjCOLONjPREFACE COLON",
    "jQUESTION MARKjPARAGRAPH SEPARATORjDIGIT ONEpTWOqHREEpFOURqIVEpSIXqEVENpEIGHTpNINE",
    "jNUMBER TENrWENTYrHIRTYqFORTYrIFTYqSIXTYrEVENTYqEIGHTYqNINETYqHUNDREDqTEN THOUSAND"]⟩,
  ⟨4992, ["aETHIOPIC SYLLABLE SEBATBEIT MWAsMWIuEEvsSEBATBEIT BWAsBWIuEEvsSEBATBEIT FWAsFWIuEE",
    "vsSEBATBEIT PWAsPWIuEEvjTONAL MARK YIZETuDERETuRIKRIKuSHORT RIKRIKuDIFATuKENATuCHIRET",
    "uHIDETuDERET-HIDETuKURT"]⟩,
  ⟨5024, ["aCHEROKEE LETTER AqEqIqOqUqVqGAqKAqGErIrOrUrVqHArErIrOrUrVqLArErIrOrUrVqMArErIrOrU",
    "qNAqHNAqNAHrErIrOrUrVqQUAsEsIsOsUsVqSArrErIrOrUrVqDAqTAqDEqTEqDIqTIqDOrUrVrLAqTLAsEsIsOsU",
    "sVrSAsEsIsOsUsVqWArErIrOrUrVqYArErIrOrUrVqMV"]⟩,
  ⟨5112, ["aCHEROKEE SMALL LETTER YExIxOxUxVwMV"]⟩,
  ⟨5120, ["aCANADIAN SYLLABICS HYPHENtEtAAItIuItOuOtY-CREE OOtCARRIER EEzR ItAuAtWEvST-CREE WE",
    "uIuEST-CREE WIuIIuEST-CREE WIIuOuEST-CREE WOuOOuEST-CREE WOOtNASKAPI WOOtWAuEST-CREE WA",
    "uAAuEST-CREE WAAtNASKAPI WAAtAItY-CREE WtGLOTTAL STOPtFINAL ACUTEzGRAVEzBOTTOM HALF RING",
    "zTOP HALF RINGzRIGHT HALF RINGzRINGzDOUBLE ACUTEzDOUBLE SHORT VERTICAL STROKESzMIDDLE DOT",
    "zSHORT HORIZONTAL STROKEzPLUSzDOWN TACKtENtINtONtANtPEuAAIuIvIuOvOtY-CREE POOtCARRIER HEE",
    "zR HItPAvAuWEtWEST-CREE PWEtPWItWEST-CREE PWItPWIItWEST-CREE PWIItPWOtWEST-CREE PWOtPWOO",
    "tWEST-CREE PWOOtPWAtWEST-CREE PWAtPWAAtWEST-CREE PWAAtY-CREE PWAAtPtWEST-CREE PtCARRIER H",
    "tTEuAAIuIvIuOvOtY-CREE TOOtCARRIER DEEzR DItTAvAuWEtWEST-CREE TWEtTWItWEST-CREE TWItTWII",
    "tWEST-CREE TWIItTWOtWEST-CREE TWOtTWOOtWEST-CREE TWOOtTWAtWEST-CREE TWAtTWAA",
    "tWEST-CREE TWAAtNASKAPI TWAAtTuTEvIvOvAtKEuAAIuIvIuOvOtY-CREE KOOtKAvAuWEtWEST-CREE KWE",
    "tKWItWEST-CREE KWItKWIItWEST-CREE KWIItKWOtWEST-CREE KWOtKWOOtWEST-CREE KWOOtKWA",
    "tWEST-CREE KWAtKWAAtWEST-CREE KWAAtNASKAPI KWAAtKuWtSOUTH-SLAVEY KEHzSLAVEY KIH",
    "zSLAVEY KOHzSLAVEY KAHtCEuAAIuIvIuOvOtY-CREE COOtCAvAuWEtWEST-CREE CWEtCWItWEST-CREE CWI",
    "tCWIItWEST-CREE CWIItCWOtWEST-CREE CWOtCWOOtWEST-CREE CWOOtCWAtWEST-CREE CWAtCWAA",
    "tWEST-CREE CWAAtNASKAPI CWAAtCtSAYISI THtMEuAAIuIvIuOvOtY-CREE MOOtMAvAuWEtWEST-CREE MWE",
    "tMWItWEST-CREE MWItMWIItWEST-CREE MWIItMWOtWEST-CREE MWOtMWOOtWEST-CREE MWOOtMWA",
    "tWEST-CREE MWAtMWAAtWEST-CREE MWAAtNASKAPI MWAAtMtWEST-CREE MtMHtATHAPASCAN MtSAYISI MtNE",
    "uAAIuIvIuOvOtY-CREE NOOtNAvAuWEtWEST-CREE NWEtNWAtWEST-CREE NWAtNWAAtWEST-CREE NWAA",
    "tNASKAPI NWAAutCARRIER NGtNHtLEuAAIuIvIuOvOtY-CREE LOOtLAvAuWEtWEST-CREE LWEtLWI",
    "tWEST-CREE LWItLWIItWEST-CREE LWIItLWOtWEST-CREE LWOtLWOOtWEST-CREE LWOOtLWA",
    "tWEST-CREE LWAtLWAAtWEST-CREE LWAAtLtWEST-CREE LtMEDIAL LtSEuAAIuIvIuOvOtY-CREE SOOtSAvA",
    "uWEtWEST-CREE SWEtSWItWEST-CREE SWItSWIItWEST-CREE SWIItSWOtWEST-CREE SWOtSWOO",
    "tWEST-CREE SWOOtSWAtWEST-CREE SWAtSWAAtWEST-CREE SWAAtNASKAPI SWAAtStATHAPASCAN StSW",
    "tBLACKFOOT StMOOSE-CREE SKtNASKAPI SKWzI S-WzI SPWAzI STWAzI SKWAzI SCWAtSHEvIwIvOwOvAwA",
    "vWEtWEST-CREE SHWEtSHWItWEST-CREE SHWItSHWIItWEST-CREE SHWIItSHWOtWEST-CREE SHWOtSHWOO",
    "tWEST-CREE SHWOOtSHWAtWEST-CREE SHWAtSHWAAtWEST-CREE SHWAAtSHtYEuAAIuIvIuOvOu-CREE YOOuA",
    "vAuWEtWEST-CREE YWEtYWItWEST-CREE YWItYWIItWEST-CREE YWIItYWOtWEST-CREE YWOtYWOO",
    "tWEST-CREE YWOOtYWAtWEST-CREE YWAtYWAAtWEST-CREE YWAAtNASKAPI YWAAtYtBIBLE-CREE Y",
    "tWEST-CREE YtSAYISI YItREu-CREE REtWEST-CREE LEtRAAIuIvIuOvOtWEST-CREE LOtRAvA",
    "tWEST-CREE LAtRWAAtWEST-CREE RWAAtRtWEST-CREE RtMEDIAL RtFEuAAIuIvIuOvOuAvAuWAA",
    "tWEST-CREE FWAAtFtTHEtN-CREE THEtTHItN-CREE THItTHIItN-CREE THIItTHOwOvAwAvWAA",
    "tWEST-CREE THWAAtTHuTHEwIwOwAwuYEvIvOvAtNUNAVIK HEzK HIzK HIIzK HOzK HOOzK HAzK HAAzK H",
    "yUT HtHKtQAAIuIvIuOvOuAvAutTLHEwIwOwAtWEST-CREE REzREE RIzREE ROzREE RAtNGAAIvIwIvOwOvAwA",
    "vuNGtSAYISI SHEz SHIz SHOz SHAtWOODS-CREE THEzCREE THIzCREE THOzCREE THAzCREE THtLHIwIvO",
    "wOvAwAvtTH-CREE THEzE THIzE THIIzE THOzE THOOzE THAzE THAAzE THtAIVILIK BtBLACKFOOT E",
    "zOOT IzOOT OzOOT AzOOT WEzOOT WIzOOT WOzOOT WAzOOT NEzOOT NIzOOT NOzOOT NAzOOT KEzOOT KI",
    "zOOT KOzOOT KAtSAYISI HEz HIz HOz HAtCARRIER GHUzR GHOzR GHEzR GHEEzR GHIzR GHAzR RUzR RO",
    "zR REzR REEzR RIzR RAzR WUzR WOzR WEzR WEEzR WIzR WAzR HWUzR HWOzR HWEzR HWEEzR HWIzR HWA",
    "zR THUzR THOzR THEzR THEEzR THIzR THAzR TTUzR TTOzR TTEzR TTEEzR TTIzR TTAzR PUzR POzR PE",
    "zR PEEzR PIzR PAzR PzR GUzR GOzR GEzR GEEzR GIzR GAzR KHUzR KHOzR KHEzR KHEEzR KHIzR KHA",
    "zR KKUzR KKOzR KKEzR KKEEzR KKIzR KKAzR KKzR NUzR NOzR NEzR NEEzR NIzR NAzR MUzR MOzR ME",
    "zR MEEzR MIzR MAzR YUzR YOzR YEzR YEEzR YIzR YAzR JUtSAYISI JUtCARRIER JOzR JEzR JEEzR JI",
    "tSAYISI JItCARRIER JAzR JJUzR JJOzR JJEzR JJEEzR JJIzR JJAzR LUzR LOzR LEzR LEEzR LIzR LA",
    "zR DLUzR DLOzR DLEzR DLEEzR DLIzR DLAzR LHUzR LHOzR LHEzR LHEEzR LHIzR LHAzR TLHUzR TLHO",
    "zR TLHEzR TLHEEzR TLHIzR TLHAzR TLUzR TLOzR TLEzR TLEEzR TLIzR TLAzR ZUzR ZOzR ZEzR ZEE",
    "zR ZIzR ZAzR ZzR INITIAL ZzR DZUzR DZOzR DZEzR DZEEzR DZIzR DZAzR SUzR SOzR SEzR SEEzR SI",
    "zR SAzR SHUzR SHOzR SHEzR SHEEzR SHIzR SHAzR SHzR TSUzR TSOzR TSEzR TSEEzR TSIzR TSA",
    "zR CHUzR CHOzR CHEzR CHEEzR CHIzR CHAzR TTSUzR TTSOzR TTSEzR TTSEEzR TTSIzR TTSAuHI SIGN",
    "tFULL STOPtQAItNGAIuNGIxIwOxOwAxAtWOODS-CREE THWEEzCREE THWIzCREE THWIIzCREE THWO",
    "zCREE THWOOzCREE THWAzCREE THWAAzCREE FINAL THtBLACKFOOT WaOGHAM SPACE MARKgLETTER BEITH",
    "nLUISnFEARNnSAILnNIONnUATHnDAIRnTINNEnCOLLoEIRTnMUINnGORTnNGEADALnSTRAIFnRUISnAILMnONNnUR",
    "nEADHADHnIODHADHnEABHADHnORnUILLEANNnIFINnEAMHANCHOLLnPEITHgFEATHER MARK",
    "gREVERSED FEATHER MARK"]⟩,
  ⟨5792, ["aRUNIC LETTER FEHU FEOH FE FnVnURUZ UR UnYRonWnTHURISAZ THURS THORNnETHnANSUZ A",
    "nOS OnAC AoESCnLONG-BRANCH-OSS OnSHORT-TWIG-OSS OnOoEoNnRAIDO RAD REID RnKAUNAnCENnKAUN K",
    "nGnENGnGEBO GYFU GoARnWUNJO WYNN WnHAGLAZ HpEGL HnLONG-BRANCH-HAGALL H",
    "nSHORT-TWIG-HAGALL HnNAUDIZ NYD NAUD NnSHORT-TWIG-NAUD NnDOTTED-NnISAZ IS ISS InEnJERAN J",
    "nGERnLONG-BRANCH-AR AEnSHORT-TWIG-AR AnIWAZ EOHnPERTHO PEORTH PnALGIZ EOLHXnSOWILO S",
    "oIGEL LONG-BRANCH-SOL SoHORT-TWIG-SOL SnCnZnTIWAZ TIR TYR TnSHORT-TWIG-TYR TnD",
    "nBERKANAN BEORC BJARKAN BnSHORT-TWIG-BJARKAN BnDOTTED-PnOPEN-PnEHWAZ EH EnMANNAZ MAN M",
    "nLONG-BRANCH-MADR MnSHORT-TWIG-MADR MnLAUKAZ LAGU LOGR LnDOTTED-LnINGWAZqnDAGAZ DAEG D",
    "nOTHALAN ETHEL OnEARnIORnCWEORTHoALCoEALCnSTANnLONG-BRANCH-YRnSHORT-TWIG-YRnICELANDIC-YR",
    "nQnXgSINGLE PUNCTUATIONgMULTIPLE PUNCTUATIONgCROSS PUNCTUATIONgARLAUG SYMBOL",
    "gTVIMADUR SYMBOLgBELGTHOR SYMBOLgLETTER KnSHnOOnFRANKS CASKET OSzT ISzT EHzT ACzT AESC"]⟩,
  ⟨5888, ["aTAGALOG LETTER ApIpUpKApGApNGApTApDApNApPApBApMApYApRApLApWApSApHAiVOWEL SIGN ItU",
    "iSIGN VIRAMAnPAMUDPOD"]⟩,
  ⟨5919, ["aTAGALOG LETTER ARCHAIC RAaHANUNOO LETTER ApIpUpKApGApNGApTApDApNApPApBApMApYApRA",
    "pLApWApSApHAiVOWEL SIGN ItUiSIGN PAMUDPODaPHILIPPINE SINGLE PUNCTUATION",
    "lDOUBLE PUNCTUATION"]⟩,
  ⟨5952, ["aBUHID LETTER AnInUnKAnGAnNGAnTAnDAnNAnPAnBAnMAnYAnRAnLAnWAnSAnHAgVOWEL SIGN IrU"]⟩,
  ⟨5984, ["aTAGBANWA LETTER AqIqUqKAqGAqNGAqTAqDAqNAqPAqBAqMAqYA"]⟩,
  ⟨5998, ["aTAGBANWA LETTER LAqWAqSA"]⟩,
  ⟨6002, ["aTAGBANWA VOWEL SIGN IuU"]⟩,
  ⟨6016, ["aKHMER LETTER KAoHAoOoHOnNGOnCAoHAoOoHOnNYOnDAnTTHAnDOnTTHOnNNOnTAoHAoOoHOnNOnBA",
    "nPHAoOoHOnMOnYOnROnLOnVOnSHAoSOoAnHAnLAnQAgINDEPENDENT VOWEL QAQzAAzIzIIzUzUKzUUzUUVyRY",
    "zYYyLYzYYyQEzAIzOO TYPE ONEzOO TYPE TWOzAUgVOWEL INHERENT AQwAmSIGN AArIsIrYsYrUsUsArOE",
    "rYArIErErAEsIrOOrAUgSIGN NIKAHITlREAHMUKlYUUKALEAPINTUlMUUSIKATOANlTRIISAPlBANTOClROBAT",
    "lTOANDAKHIATlKAKABATlAHSDAlSAMYOK SANNYAlVIRIAMlCOENGlBATHAMASATlKHANlBARIYOOSAN",
    "lCAMNUC PII KUUHlLEK TOOlBEYYALlPHNAEK MUANlKOOMUUTgCURRENCY SYMBOL RIEL",
    "gSIGN AVAKRAHASANYAmTTHACAN"]⟩,
  ⟨6112, ["aKHMER DIGIT ZEROmONEmTWOnHREEmFOURnIVEmSIXnEVENmEIGHTmNINE"]⟩,
  ⟨6128, ["aKHMER SYMBOL LEK ATTAK SONxMUOYxPIIxBEIyUONxPRAMzAM-MUOYzAM-PIIzAM-BEIzAM-BUON"]⟩,
  ⟨6144, ["aMONGOLIAN BIRGAkELLIPSISkCOMMAkFULL STOPkCOLONkFOUR DOTSkTODO SOFT HYPHEN",
    "kSIBE SYLLABLE BOUNDARY MARKERkMANCHU COMMArFULL STOPkNIRUGUkFREE VARIATION SELECTOR ONE",
    "zSELECTOR TWOzSELECTOR THREEkVOWEL SEPARATORkFREE VARIATION SELECTOR FOURkDIGIT ZEROqONE",
    "qTWOrHREEqFOURrIVEqSIXrEVENqEIGHTqNINE"]⟩,
  ⟨6176, ["aMONGOLIAN LETTER ArErIrOrUrOErUErEErNArANGrBArPArQArGArMArLArSAsHArTArDArCHArJArYA",
    "rRArWArFArKAsHArTSArZArHAArZRArLHArZHIrCHIrTODO LONG VOWEL SIGNwEwIwOwUwOEwUEwANGwBAwPA",
    "wQAwGAwMAwTAwDAwCHAwJAwTSAwYAwWAwKAwGAAwHAAwJIAwNIAwDZArSIBE EwIxYwUExwANGwKAwGAwHAwPA",
    "wSHAwTAwDAwJAwFAwGAAwHAAwTSAwZAwRAAwCHAwZHArMANCHU IyKAyRAyFAyZHArCHA WITH TWO DOTS"]⟩,
  ⟨6272, ["aMONGOLIAN LETTER ALI GALI ANUSVARA ONEz VISARGA ONEz DAMARUz UBADAMA",
    "z INVERTED UBADAMAz BALUDAz THREE BALUDAz Az Iz KAz NGAz CAz TTAz TTHAz DDAz NNAz TAz DA",
    "z PAz PHAz SSAz ZHAz ZAz AHrTODO ALI GALI TAz GALI ZHArMANCHU ALI GALI GHAzLI GALI NGA",
    "zLI GALI CAzLI GALI JHAzLI GALI TTAzLI GALI DDHAzLI GALI TAzLI GALI DHAzLI GALI SSA",
    "zLI GALI CYAzLI GALI ZHAzLI GALI ZArALI GALI HALF Uz HALF YArMANCHU ALI GALI BHA",
    "rALI GALI DAGALGArMANCHU ALI GALI LHA"]⟩,
  ⟨6320, ["aCANADIAN SYLLABICS OYtAYuAYtWAYtPOYuAYuWOYtTAYtKAYuWAYtMAYtNOYuAYtLAYtSOYuAYuHOY",
    "vAYvWOYtYOYuAYtRAYtNWItOJIBWAY NWItNWIItOJIBWAY NWIItNWOtOJIBWAY NWOtNWOOtOJIBWAY NWOO",
    "tRWEEvIwIvOwOvAtOJIBWAY PzY TzY KzY CzY MzY NzY SzY SHtEASTERN WtWESTERN W",
    "tFINAL SMALL RINGzRAISED DOTtR-CREE RWEtWEST-CREE LOOzREE LAAtTHWEwAuTHWEwOOwAAuLHWEwOO",
    "tSAYISI SHWEz SHOOz HOOtCARRIER GWUzR DENE GEEzR GAAzR GWAtSAYISI JUUtCARRIER JWA",
    "tBEAVER DENE Lz DENE RtCARRIER DENTAL S"]⟩,
  ⟨6400, ["aLIMBU VOWEL-CARRIER LETTERgLETTER KAoHAnGAoHAnNGAnCAoHAnJAoHAnYANnTAoHAnDAoHAnNA",
    "nPAoHAnBAoHAnMAnYAnRAnLAnWAnSHAoSAoAnHAnGYANnTRA"]⟩,
  ⟨6432, ["aLIMBU VOWEL SIGN ArIrUrEErAIrOOrAUrErOgSUBJOINED LETTER YAxRAxWA"]⟩,
  ⟨6448, ["aLIMBU SMALL LETTER KAtNGAtANUSVARAtTAtNAtPAtMAtRAtLAhIGN MUKPHRENGlKEMPHRENGlSA-I"]⟩,
  ⟨6464, ["aLIMBU SIGN LOO"]⟩,
  ⟨6468, ["aLIMBU EXCLAMATION MARKgQUESTION MARKgDIGIT ZEROmONEmTWOnHREEmFOURnIVEmSIXnEVEN",
    "mEIGHTmNINEaTAI LE LETTER KAoXAoNGAoTSAoSAoYAoTApHAoLAoPApHAoMAoFAoVAoHAoQAoKHAoTSHAoNAoA",
    "oIoEEpHoUoOOpoUEoEoAUEpI"]⟩,
  ⟨6512, ["aTAI LE LETTER TONE-2t3t4t5t6"]⟩,
  ⟨6528, ["aNEW TAI LUE LETTER HIGH QAtLOW QAtHIGH KAyXAyNGAtLOW KAxXAxNGAtHIGH TSAySAyYA",
    "tLOW TSAxSAxYAtHIGH TAzHAyNAtLOW TAyHAxNAtHIGH PAzHAyMAtLOW PAyHAxMAtHIGH FAyVAyLAtLOW FA",
    "xVAxLAtHIGH HAyDAyBAtLOW HAxDAxBAtHIGH KVAyXVAtLOW KVAxXVAtHIGH SUAtLOW SUA"]⟩,
  ⟨6576, ["aNEW TAI LUE VOWEL SIGN VOWEL SHORTENERxAAxIIxUyUxExAExOyAxUExAYyAYxUYxOYyAYxUEYxIY",
    "mLETTER FINAL VzNGzNzMzKzDzBmTONE MARK-1w2"]⟩,
  ⟨6608, ["aNEW TAI LUE DIGIT ZEROsONEsTWOtHREEsFOURtIVEsSIXtEVENsEIGHTsNINEmTHAM DIGIT ONE"]⟩,
  ⟨6622, ["aNEW TAI LUE SIGN LAEuVaKHMER SYMBOL PATHAMASATnMUOY KOETnPII KOETnBEI KOET",
    "oUON KOETnPRAM KOETr-MUOY KOETsPII KOETsBEI KOETtUON KOETnDAP KOETq-MUOY KOETrPII KOET",
    "rBEI KOETsUON KOETrPRAM KOETnTUTEYASATnMUOY ROCnPII ROCnBEI ROCoUON ROCnPRAM ROC",
    "r-MUOY ROCsPII ROCsBEI ROCtUON ROCnDAP ROCq-MUOY ROCrPII ROCrBEI ROCsUON ROCrPRAM ROC",
    "aBUGINESE LETTER KAqGAqNGAsKAqPAqBAqMArPAqTAqDAqNArRAqCAqJAqNYAsCAqYAqRAqLAqVAqSAqAqHA",
    "jVOWEL SIGN IuUuEuOuAE"]⟩,
  ⟨6686, ["aBUGINESE PALLAWAjEND OF SECTIONaTAI THAM LETTER HIGH KAwHAwXAqLOW KAvXAvHAqNGA",
    "qHIGH CAwHAqLOW CAuSAuCHAqNYAqRATAqHIGH RATHAqDAqLOW RATHAqRANAqHIGH TAwHAqLOW TAvHAqNA",
    "qBAqHIGH PAwHAvFAqLOW PAuFAuPHAqMAqLOW YAqHIGH YAqRArUEqLArUEqWAqHIGH SHAwSAwAvHAqLLAqA",
    "qLOW HAqIrIqUrUqEEqOOqLAEqGREAT SAjCONSONANT SIGN MEDIAL RAzEDIAL LAyLA TANG LAI",
    "jSIGN MAI KANG LAIjCONSONANT SIGN FINAL NGAyLOW PAyHIGH RATHA OR LOW PAyMAyBAySA"]⟩,
  ⟨6752, ["aTAI THAM SIGN SAKOTjVOWEL SIGN AuMAI SATuAAuTALL AAuIvIuUEvUEvvUuOvA BELOWvYuEuAE",
    "uOOuAIuTHAM AIuOA ABOVEjSIGN MAI KANGoTONE-1t2oKHUEN TONE-3z4z5oRA HAAMoMAI SAM",
    "oKHUEN-LUE KARAN"]⟩,
  ⟨6783, ["aTAI THAM COMBINING CRYPTOGRAMMIC DOTjHORA DIGIT ZEROuONEuTWOvHREEuFOURvIVEuSIX",
    "vEVENuEIGHTuNINE"]⟩,
  ⟨6800, ["aTAI THAM THAM DIGIT ZEROuONEuTWOvHREEuFOURvIVEuSIXvEVENuEIGHTuNINE"]⟩,
  ⟨6816, ["aTAI THAM SIGN WIANGtWAAKoSAWANoKEOWoHOYoDOKMAIoREVERSED ROTATED RANAoMAI YAMOK",
    "oKAANsKUUoSATKAANvKUUoHANGoCAANG"]⟩,
  ⟨6832, ["aCOMBINING DOUBLED CIRCUMFLEX ACCENTlIAERESIS-RINGkINFINITYkDOWNWARDS ARROW",
    "kTRIPLE DOTkX-X BELOWkWIGGLY LINE BELOWkOPEN MARK BELOWkDOUBLE OPEN MARK BELOW",
    "kLIGHT CENTRALIZATION STROKE BELOWkSTRONG CENTRALIZATION STROKE BELOWkPARENTHESES ABOVE",
    "kDOUBLE PARENTHESES ABOVEkPARENTHESES BELOWwOVERLAYkLATIN SMALL LETTER W BELOW",
    "zTER TURNED W BELOWlEFT PARENTHESIS ABOVE LEFTkRIGHT PARENTHESIS ABOVE RIGHT",
    "kLEFT PARENTHESIS BELOW LEFTkRIGHT PARENTHESIS BELOW RIGHTkSQUARE BRACKETS ABOVE",
    "kNUMBER SIGN ABOVEkINVERTED DOUBLE ARCH ABOVEkPLUS SIGN ABOVEkDOUBLE PLUS SIGN ABOVE",
    "zN BELOWkTRIPLE ACUTE ACCENTkLATIN SMALL LETTER INSULAR GzTER INSULAR RzTER INSULAR T"]⟩,
  ⟨6912, ["aBALINESE SIGN ULU RICEMsCANDRAoCECEKoSURANGoBISAHjLETTER AKARAv TEDUNGqIKARA",
    "v TEDUNGqUKARAv TEDUNGqRA REPAx TEDUNGqLA LENGAy TEDUNGqEKARAqAIKARAqOKARAv TEDUNGqKA",
    "s MAHAPRANAqGAs GORAqNGAqCAs LACAqJAs JERAqNYAqTA LATIKtMURDA MAHAPRANA",
    "qDA MURDA ALPAPRANAzMAHAPRANAqNA RAMBATqTAs TAWAqDAs MADUqNAqPAs KAPALqBAs KEMBANGqMAqYA",
    "qRAqLAqWAqSA SAGAvPAsqHAjSIGN REREKANjVOWEL SIGN TEDUNGuULUx SARIuSUKUy ILUTuRA REPA",
    "zPA TEDUNGuLA LENGAzNGA TEDUNGuTALINGzG REPAzG TEDUNGzG REPA TEDUNGuPEPETz TEDUNG",
    "jADEG ADEGjLETTER KAF SASAKrHOT SASAKqTZIR SASAKqEF SASAKqVE SASAKqZAL SASAKqASYURA SASAK",
    "rRCHAIC JNYA"]⟩,
  ⟨6992, ["aBALINESE DIGIT ZEROpONEpTWOqHREEpFOURqIVEpSIXqEVENpEIGHTpNINEjPANTIlMADAjWINDU",
    "jCARIK PAMUNGKAHpSIKIpPARERENjPAMENENGjMUSICAL SYMBOL DONGzENGzUNGzANGzANG SURANGzING",
    "zAENGzEUNGzAINGzANG GEDEyCOMBINING TEGEHzOMBINING ENDEPzOMBINING KEMPULzOMBINING KEMPLI",
    "zOMBINING JEGOGANzOMBINING KEMPUL WITH JEGOGANzOMBINING KEMPLI WITH JEGOGAN",
    "zOMBINING BENDEzOMBINING GONGyRIGHT-HAND OPEN DUGzIGHT-HAND OPEN DAGzIGHT-HAND CLOSED TUK",
    "zIGHT-HAND CLOSED TAKyLEFT-HAND OPEN PANGzEFT-HAND OPEN PUNGzEFT-HAND CLOSED PLAK",
    "zEFT-HAND CLOSED PLUKzEFT-HAND OPEN PINGjPANTI LANTANGlMADA LANTANG"]⟩,
  ⟨7040, ["aSUNDANESE SIGN PANYECEKsGLAYARtWISADkLETTER ArIrUrAErOrEsUrKArQArGArNGArCArJArZA",
    "rNYArTArDArNArPArFArVArBArMArYArRArLArWArSArXArHAkCONSONANT SIGN PAMINGKALzPANYAKRA",
    "zPANYIKUkVOWEL SIGN PANGHULUyYUKUyAELAENGyOLONGxMEPETxNEULEUNGkSIGN PAMAAEHpVIRAMA",
    "kCONSONANT SIGN PASANGAN MAzPASANGAN WAkLETTER KHArSYAkDIGIT ZEROqONEqTWOrHREEqFOURrIVE",
    "qSIXrEVENqEIGHTqNINEkAVAGRAHAkLETTER REUrLEUrBHArFINAL KxMaBATAK LETTER AnSIMALUNGUN AnHA",
    "nSIMALUNGUN HAnMANDAILING HAnBAnKARO BAnPAnSIMALUNGUN PAnNAnMANDAILING NAnWA",
    "nSIMALUNGUN WAnPAKPAK WAnGAnSIMALUNGUN GAnJAnDAnRAnSIMALUNGUN RAnMAnSIMALUNGUN MA",
    "oOUTHERN TAnNORTHERN TAnSAoIMALUNGUN SAnMANDAILING SAnYAnSIMALUNGUN YAnNGAnLA",
    "nSIMALUNGUN LAnNYAnCAnNDAnMBAnInUgSIGN TOMPIgVOWEL SIGN ErPAKPAK ErEErIrKARO IrOrKARO OrU",
    "s FOR SIMALUNGUN SAgCONSONANT SIGN NGvHgPANGOLATjONGONAN"]⟩,
  ⟨7164, ["aBATAK SYMBOL BINDU NA METEKtPINARBORAStJUDULtPANGOLATaLEPCHA LETTER KApLApHAoGApLA",
    "oNGAoCApHAoJAoNYAoTApHAoDAoNAoPApLApHAoFApLAoBApLAoMApLAoTSAqHAoDZAoYAoRAoLAoHApLAoVAoSA",
    "pHAoWAoAhSUBJOINED LETTER YAyRAhVOWEL SIGN AAsIsOtOsUtUsEhCONSONANT SIGN KwMwLwNwPwRwT",
    "wNYIN-DOwKANGhSIGN RANmNUKTA"]⟩,
  ⟨7227, ["aLEPCHA PUNCTUATION TA-ROLtNYET THYOOM TA-ROLtCER-WAtTSHOOK CER-WAzhDIGIT ZEROnONE",
    "nTWOoHREEnFOURoIVEnSIXoEVENnEIGHTnNINE"]⟩,
  ⟨7245, ["aLEPCHA LETTER TTAqHAoDDAaOL CHIKI DIGIT ZEROpONEpTWOqHREEpFOURqIVEpSIXqEVENpEIGHT",
    "pNINEjLETTER LAqATrGrNGrLqLAAqAAKsJsMsWqLIqISrHrNYrRqLUqUCrDrNNrYqLEqEPrDDrNrRRqLOqOTTrB",
    "rVrHjMU TTUDDAGjGAAHLAA TTUDDAAGjMU-GAAHLAA TTUDDAAGjRELAAjPHAARKAAjAHAD",
    "jPUNCTUATION MUCAADvDOUBLE MUCAADaCYRILLIC SMALL LETTER ROUNDED VEwLONG-LEGGED DE",
    "wNARROW OwWIDE ESwTALL TExHREE-LEGGED TExALL HARD SIGNzL YATwUNBLENDED UK"]⟩,
  ⟨7312, ["aGEORGIAN MTAVRULI CAPITAL LETTER ANz LETTER BANz LETTER GANz LETTER DONz LETTER EN",
    "z LETTER VINz LETTER ZENz LETTER TANz LETTER INz LETTER KANz LETTER LASz LETTER MAN",
    "z LETTER NARz LETTER ONz LETTER PARz LETTER ZHARz LETTER RAEz LETTER SANz LETTER TAR",
    "z LETTER UNz LETTER PHARz LETTER KHARz LETTER GHANz LETTER QARz LETTER SHINz LETTER CHIN",
    "z LETTER CANz LETTER JILz LETTER CILz LETTER CHARz LETTER XANz LETTER JHANz LETTER HAE",
    "z LETTER HEz LETTER HIEz LETTER WEz LETTER HARz LETTER HOEz LETTER FIz LETTER YN",
    "z LETTER ELIFIz LETTER TURNED GANz LETTER AIN"]⟩,
  ⟨7357, ["aGEORGIAN MTAVRULI CAPITAL LETTER AENz LETTER HARD SIGNz LETTER LABIAL SIGN",
    "aSUNDANESE PUNCTUATION BINDU SURYAzDU PANGLONGzDU PURNAMAzDU CAKRAzDU LEU SATANGA",
    "zDU KA SATANGAzDU DA SATANGAzDU BA SATANGA"]⟩,
  ⟨7376, ["aVEDIC TONE KARSHANAlSHARAlPRENKHAgSIGN NIHSHVASAlYAJURVEDIC MIDLINE SVARITA",
    "gTONE YAJURVEDIC AGGRAVATED INDEPENDENT SVARITAwINDEPENDENT SVARITA",
    "wKATHAKA INDEPENDENT SVARITAlCANDRA BELOW",
    "lYAJURVEDIC KATHAKA INDEPENDENT SVARITA SCHROEDERlDOUBLE SVARITAlTRIPLE SVARITA",
    "lKATHAKA ANUDATTAlDOT BELOWlTWO DOTS BELOWmHREE DOTS BELOW",
    "lRIGVEDIC KASHMIRI INDEPENDENT SVARITAlATHARVAVEDIC INDEPENDENT SVARITA",
    "gSIGN VISARGA SVARITAtUDATTAlREVERSED VISARGA UDATTAlVISARGA ANUDATTA",
    "lREVERSED VISARGA ANUDATTAlVISARGA UDATTA WITH TAILtANUDATTA WITH TAIL",
    "lANUSVARA ANTARGOMUKHAuBAHIRGOMUKHAuVAMAGOMUKHAzOMUKHA WITH TAILlTIRYAK",
    "lHEXIFORM LONG ANUSVARAlLONG ANUSVARAlRTHANG LONG ANUSVARAlANUSVARA UBHAYATO MUKHA",
    "mRDHAVISARGAlROTATED ARDHAVISARGAgTONE CANDRA ABOVEgSIGN JIHVAMULIYAlUPADHMANIYAlATIKRAMA",
    "gTONE RING ABOVElDOUBLE RING ABOVEgSIGN DOUBLE ANUSVARA ANTARGOMUKHA"]⟩,
  ⟨7424, ["aLATIN LETTER SMALL CAPITAL AzL AEgSMALL LETTER TURNED AE",
    "gLETTER SMALL CAPITAL BARRED BzL CzL DzL ETHzL EgSMALL LETTER TURNED OPEN Ez I",
    "gLETTER SMALL CAPITAL JzL KzL L WITH STROKEzL MzL REVERSED NzL OzL OPEN O",
    "gSMALL LETTER SIDEWAYS OzYS OPEN OzYS O WITH STROKEtTURNED OEgLETTER SMALL CAPITAL OU",
    "gSMALL LETTER TOP HALF OtBOTTOM HALF OgLETTER SMALL CAPITAL PzL REVERSED RzL TURNED RzL T",
    "zL UgSMALL LETTER SIDEWAYS UzYS DIAERESIZED UzYS TURNED MgLETTER SMALL CAPITAL VzL WzL Z",
    "zL EZHnVOICED LARYNGEAL SPIRANTnAINaGREEK LETTER SMALL CAPITAL GAMMAzL LAMDAzL PIzL RHO",
    "zL PSIaCYRILLIC LETTER SMALL CAPITAL ELaMODIFIER LETTER CAPITAL AzEyBzARRED ByDyE",
    "yREVERSED EyGyHyIyJyKyLyMyNyREVERSED NyOzUyPyRyTyUyWqSMALL AwTURNED AwALPHAwTURNED AEwBwD",
    "wEwSCHWAwOPEN EwTURNED OPEN EwGwTURNED IwKwMwENGwOxPEN OwTOP HALF OwBOTTOM HALF OwPwTwU",
    "wSIDEWAYS UwTURNED MwVwAINwBETAwGREEK GAMMAwDELTAwGREEK PHIwCHI",
    "aLATIN SUBSCRIPT SMALL LETTER IzTER RzTER UzTER VaGREEK SUBSCRIPT SMALL LETTER BETA",
    "zTER GAMMAzTER RHOzTER PHIzTER CHIaLATIN SMALL LETTER UEtB WITH MIDDLE TILDE",
    "tD WITH MIDDLE TILDEtF WITH MIDDLE TILDEtM WITH MIDDLE TILDEtN WITH MIDDLE TILDE",
    "tP WITH MIDDLE TILDEtR WITH MIDDLE TILDEz FISHHOOK AND MIDDLE TILDEtS WITH MIDDLE TILDE",
    "tT WITH MIDDLE TILDEtZ WITH MIDDLE TILDEtTURNED GaMODIFIER LETTER CYRILLIC EN",
    "aLATIN SMALL LETTER INSULAR GtTH WITH STRIKETHROUGHmCAPITAL LETTER I WITH STROKE",
    "mLETTER IOTA WITH STROKEtP WITH STROKEmCAPITAL LETTER U WITH STROKE",
    "mLETTER UPSILON WITH STROKEtB WITH PALATAL HOOKtD WITH PALATAL HOOKtF WITH PALATAL HOOK",
    "tG WITH PALATAL HOOKtK WITH PALATAL HOOKtL WITH PALATAL HOOKtM WITH PALATAL HOOK",
    "tN WITH PALATAL HOOKtP WITH PALATAL HOOKtR WITH PALATAL HOOKtS WITH PALATAL HOOK",
    "tESH WITH PALATAL HOOKtV WITH PALATAL HOOKtX WITH PALATAL HOOKtZ WITH PALATAL HOOK",
    "tA WITH RETROFLEX HOOKuLPHA WITH RETROFLEX HOOKtD WITH HOOK AND TAIL",
    "tE WITH RETROFLEX HOOKtOPEN E WITH RETROFLEX HOOKtREVERSED OPEN E WITH RETROFLEX HOOK",
    "tSCHWA WITH RETROFLEX HOOKtI WITH RETROFLEX HOOKtOPEN O WITH RETROFLEX HOOK",
    "tESH WITH RETROFLEX HOOKtU WITH RETROFLEX HOOKtEZH WITH RETROFLEX HOOK",
    "aMODIFIER LETTER SMALL TURNED ALPHAwCx WITH CURLwETHwREVERSED OPEN EwF",
    "wDOTLESS J WITH STROKEwSCRIPT GwTURNED HwI WITH STROKExOTAwCAPITAL IzITAL I WITH STROKE",
    "wJ WITH CROSSED-TAILwL WITH RETROFLEX HOOKzITH PALATAL HOOKwCAPITAL LwM WITH HOOK",
    "wTURNED M WITH LONG LEGwN WITH LEFT HOOKzITH RETROFLEX HOOKwCAPITAL NwBARRED OwPHI",
    "wS WITH HOOKwESHwT WITH PALATAL HOOKwU BARxPSILONwCAPITAL UwV WITH HOOKwTURNED VwZ",
    "x WITH RETROFLEX HOOKzITH CURLwEZHwTHETAaCOMBINING DOTTED GRAVE ACCENTrACUTE ACCENT",
    "kSNAKE BELOWlUSPENSION MARKkMACRON-ACUTEkGRAVE-MACRONkMACRON-GRAVEkACUTE-MACRON",
    "kGRAVE-ACUTE-GRAVEkACUTE-GRAVE-ACUTEkLATIN SMALL LETTER R BELOWkBREVE-MACRONkMACRON-BREVE",
    "kDOUBLE CIRCUMFLEX ABOVEkOGONEK ABOVEkZIGZAG BELOWkIS BELOWkUR ABOVElS ABOVE",
    "kLATIN SMALL LETTER FLATTENED OPEN A ABOVEzTER AEzTER AOzTER AVzTER C CEDILLA",
    "zTER INSULAR DzTER ETHzTER GqLETTER SMALL CAPITAL GqSMALL LETTER KzTER L",
    "qLETTER SMALL CAPITAL LzALL CAPITAL MqSMALL LETTER NqLETTER SMALL CAPITAL NzALL CAPITAL R",
    "qSMALL LETTER R ROTUNDAzTER SzTER LONG SzTER ZzTER ALPHAzTER BzTER BETAzTER SCHWAzTER F",
    "zTER L WITH DOUBLE MIDDLE TILDEzTER O WITH LIGHT CENTRALIZATION STROKEzTER PzTER ESH",
    "zTER U WITH LIGHT CENTRALIZATION STROKEzTER WzTER A WITH DIAERESISzTER O WITH DIAERESIS",
    "zTER U WITH DIAERESISkUP TACK ABOVEkKAVYKA ABOVE RIGHTxLEFTkDOT ABOVE LEFT",
    "kWIDE INVERTED BRIDGE BELOWkDOT BELOW LEFTlELETION MARKlOUBLE INVERTED BREVE BELOW",
    "kALMOST EQUAL TO BELOWkLEFT ARROWHEAD ABOVEkRIGHT ARROWHEAD AND DOWN ARROWHEAD BELOW",
    "aLATIN CAPITAL LETTER A WITH RING BELOWgSMALL LETTER A WITH RING BELOW",
    "gCAPITAL LETTER B WITH DOT ABOVEgSMALL LETTER B WITH DOT ABOVE",
    "gCAPITAL LETTER B WITH DOT BELOWgSMALL LETTER B WITH DOT BELOW",
    "gCAPITAL LETTER B WITH LINE BELOWgSMALL LETTER B WITH LINE BELOW",
    "gCAPITAL LETTER C WITH CEDILLA AND ACUTEgSMALL LETTER C WITH CEDILLA AND ACUTE",
    "gCAPITAL LETTER D WITH DOT ABOVEgSMALL LETTER D WITH DOT ABOVE",
    "gCAPITAL LETTER D WITH DOT BELOWgSMALL LETTER D WITH DOT BELOW",
    "gCAPITAL LETTER D WITH LINE BELOWgSMALL LETTER D WITH LINE BELOW",
    "gCAPITAL LETTER D WITH CEDILLAgSMALL LETTER D WITH CEDILLA",
    "gCAPITAL LETTER D WITH CIRCUMFLEX BELOWgSMALL LETTER D WITH CIRCUMFLEX BELOW",
    "gCAPITAL LETTER E WITH MACRON AND GRAVEgSMALL LETTER E WITH MACRON AND GRAVE",
    "gCAPITAL LETTER E WITH MACRON AND ACUTEgSMALL LETTER E WITH MACRON AND ACUTE",
    "gCAPITAL LETTER E WITH CIRCUMFLEX BELOWgSMALL LETTER E WITH CIRCUMFLEX BELOW",
    "gCAPITAL LETTER E WITH TILDE BELOWgSMALL LETTER E WITH TILDE BELOW",
    "gCAPITAL LETTER E WITH CEDILLA AND BREVEgSMALL LETTER E WITH CEDILLA AND BREVE",
    "gCAPITAL LETTER F WITH DOT ABOVEgSMALL LETTER F WITH DOT ABOVE",
    "gCAPITAL LETTER G WITH MACRONgSMALL LETTER G WITH MACRONgCAPITAL LETTER H WITH DOT ABOVE",
    "gSMALL LETTER H WITH DOT ABOVEgCAPITAL LETTER H WITH DOT BELOW",
    "gSMALL LETTER H WITH DOT BELOWgCAPITAL LETTER H WITH DIAERESIS",
    "gSMALL LETTER H WITH DIAERESISgCAPITAL LETTER H WITH CEDILLAgSMALL LETTER H WITH CEDILLA",
    "gCAPITAL LETTER H WITH BREVE BELOWgSMALL LETTER H WITH BREVE BELOW",
    "gCAPITAL LETTER I WITH TILDE BELOWgSMALL LETTER I WITH TILDE BELOW",
    "gCAPITAL LETTER I WITH DIAERESIS AND ACUTEgSMALL LETTER I WITH DIAERESIS AND ACUTE",
    "gCAPITAL LETTER K WITH ACUTEgSMALL LETTER K WITH ACUTEgCAPITAL LETTER K WITH DOT BELOW",
    "gSMALL LETTER K WITH DOT BELOWgCAPITAL LETTER K WITH LINE BELOW",
    "gSMALL LETTER K WITH LINE BELOWgCAPITAL LETTER L WITH DOT BELOW",
    "gSMALL LETTER L WITH DOT BELOWgCAPITAL LETTER L WITH DOT BELOW AND MACRON",
    "gSMALL LETTER L WITH DOT BELOW AND MACRONgCAPITAL LETTER L WITH LINE BELOW",
    "gSMALL LETTER L WITH LINE BELOWgCAPITAL LETTER L WITH CIRCUMFLEX BELOW",
    "gSMALL LETTER L WITH CIRCUMFLEX BELOWgCAPITAL LETTER M WITH ACUTE",
    "gSMALL LETTER M WITH ACUTEgCAPITAL LETTER M WITH DOT ABOVEgSMALL LETTER M WITH DOT ABOVE",
    "gCAPITAL LETTER M WITH DOT BELOWgSMALL LETTER M WITH DOT BELOW",
    "gCAPITAL LETTER N WITH DOT ABOVEgSMALL LETTER N WITH DOT ABOVE",
    "gCAPITAL LETTER N WITH DOT BELOWgSMALL LETTER N WITH DOT BELOW",
    "gCAPITAL LETTER N WITH LINE BELOWgSMALL LETTER N WITH LINE BELOW",
    "gCAPITAL LETTER N WITH CIRCUMFLEX BELOWgSMALL LETTER N WITH CIRCUMFLEX BELOW",
    "gCAPITAL LETTER O WITH TILDE AND ACUTEgSMALL LETTER O WITH TILDE AND ACUTE",
    "gCAPITAL LETTER O WITH TILDE AND DIAERESISgSMALL LETTER O WITH TILDE AND DIAERESIS",
    "gCAPITAL LETTER O WITH MACRON AND GRAVEgSMALL LETTER O WITH MACRON AND GRAVE",
    "gCAPITAL LETTER O WITH MACRON AND ACUTEgSMALL LETTER O WITH MACRON AND ACUTE",
    "gCAPITAL LETTER P WITH ACUTEgSMALL LETTER P WITH ACUTEgCAPITAL LETTER P WITH DOT ABOVE",
    "gSMALL LETTER P WITH DOT ABOVEgCAPITAL LETTER R WITH DOT ABOVE",
    "gSMALL LETTER R WITH DOT ABOVEgCAPITAL LETTER R WITH DOT BELOW",
    "gSMALL LETTER R WITH DOT BELOWgCAPITAL LETTER R WITH DOT BELOW AND MACRON",
    "gSMALL LETTER R WITH DOT BELOW AND MACRONgCAPITAL LETTER R WITH LINE BELOW",
    "gSMALL LETTER R WITH LINE BELOWgCAPITAL LETTER S WITH DOT ABOVE",
    "gSMALL LETTER S WITH DOT ABOVEgCAPITAL LETTER S WITH DOT BELOW",
    "gSMALL LETTER S WITH DOT BELOWgCAPITAL LETTER S WITH ACUTE AND DOT ABOVE",
    "gSMALL LETTER S WITH ACUTE AND DOT ABOVEgCAPITAL LETTER S WITH CARON AND DOT ABOVE",
    "gSMALL LETTER S WITH CARON AND DOT ABOVEgCAPITAL LETTER S WITH DOT BELOW AND DOT ABOVE",
    "gSMALL LETTER S WITH DOT BELOW AND DOT ABOVEgCAPITAL LETTER T WITH DOT ABOVE",
    "gSMALL LETTER T WITH DOT ABOVEgCAPITAL LETTER T WITH DOT BELOW",
    "gSMALL LETTER T WITH DOT BELOWgCAPITAL LETTER T WITH LINE BELOW",
    "gSMALL LETTER T WITH LINE BELOWgCAPITAL LETTER T WITH CIRCUMFLEX BELOW",
    "gSMALL LETTER T WITH CIRCUMFLEX BELOWgCAPITAL LETTER U WITH DIAERESIS BELOW",
    "gSMALL LETTER U WITH DIAERESIS BELOWgCAPITAL LETTER U WITH TILDE BELOW",
    "gSMALL LETTER U WITH TILDE BELOWgCAPITAL LETTER U WITH CIRCUMFLEX BELOW",
    "gSMALL LETTER U WITH CIRCUMFLEX BELOWgCAPITAL LETTER U WITH TILDE AND ACUTE",
    "gSMALL LETTER U WITH TILDE AND ACUTEgCAPITAL LETTER U WITH MACRON AND DIAERESIS",
    "gSMALL LETTER U WITH MACRON AND DIAERESISgCAPITAL LETTER V WITH TILDE",
    "gSMALL LETTER V WITH TILDEgCAPITAL LETTER V WITH DOT BELOWgSMALL LETTER V WITH DOT BELOW",
    "gCAPITAL LETTER W WITH GRAVEgSMALL LETTER W WITH GRAVEgCAPITAL LETTER W WITH ACUTE",
    "gSMALL LETTER W WITH ACUTEgCAPITAL LETTER W WITH DIAERESISgSMALL LETTER W WITH DIAERESIS",
    "gCAPITAL LETTER W WITH DOT ABOVEgSMALL LETTER W WITH DOT ABOVE",
    "gCAPITAL LETTER W WITH DOT BELOWgSMALL LETTER W WITH DOT BELOW",
    "gCAPITAL LETTER X WITH DOT ABOVEgSMALL LETTER X WITH DOT ABOVE",
    "gCAPITAL LETTER X WITH DIAERESISgSMALL LETTER X WITH DIAERESIS",
    "gCAPITAL LETTER Y WITH DOT ABOVEgSMALL LETTER Y WITH DOT ABOVE",
    "gCAPITAL LETTER Z WITH CIRCUMFLEXgSMALL LETTER Z WITH CIRCUMFLEX",
    "gCAPITAL LETTER Z WITH DOT BELOWgSMALL LETTER Z WITH DOT BELOW",
    "gCAPITAL LETTER Z WITH LINE BELOWgSMALL LETTER Z WITH LINE BELOWtH WITH LINE BELOW",
    "tT WITH DIAERESIStW WITH RING ABOVEtY WITH RING ABOVEtA WITH RIGHT HALF RING",
    "tLONG S WITH DOT ABOVEz WITH DIAGONAL STROKEz WITH HIGH STROKEgCAPITAL LETTER SHARP S",
    "gSMALL LETTER DELTAgCAPITAL LETTER A WITH DOT BELOWgSMALL LETTER A WITH DOT BELOW",
    "gCAPITAL LETTER A WITH HOOK ABOVEgSMALL LETTER A WITH HOOK ABOVE",
    "gCAPITAL LETTER A WITH CIRCUMFLEX AND ACUTEgSMALL LETTER A WITH CIRCUMFLEX AND ACUTE",
    "gCAPITAL LETTER A WITH CIRCUMFLEX AND GRAVEgSMALL LETTER A WITH CIRCUMFLEX AND GRAVE",
    "gCAPITAL LETTER A WITH CIRCUMFLEX AND HOOK ABOVE",
    "gSMALL LETTER A WITH CIRCUMFLEX AND HOOK ABOVEgCAPITAL LETTER A WITH CIRCUMFLEX AND TILDE",
    "gSMALL LETTER A WITH CIRCUMFLEX AND TILDEgCAPITAL LETTER A WITH CIRCUMFLEX AND DOT BELOW",
    "gSMALL LETTER A WITH CIRCUMFLEX AND DOT BELOWgCAPITAL LETTER A WITH BREVE AND ACUTE",
    "gSMALL LETTER A WITH BREVE AND ACUTEgCAPITAL LETTER A WITH BREVE AND GRAVE",
    "gSMALL LETTER A WITH BREVE AND GRAVEgCAPITAL LETTER A WITH BREVE AND HOOK ABOVE",
    "gSMALL LETTER A WITH BREVE AND HOOK ABOVEgCAPITAL LETTER A WITH BREVE AND TILDE",
    "gSMALL LETTER A WITH BREVE AND TILDEgCAPITAL LETTER A WITH BREVE AND DOT BELOW",
    "gSMALL LETTER A WITH BREVE AND DOT BELOWgCAPITAL LETTER E WITH DOT BELOW",
    "gSMALL LETTER E WITH DOT BELOWgCAPITAL LETTER E WITH HOOK ABOVE",
    "gSMALL LETTER E WITH HOOK ABOVEgCAPITAL LETTER E WITH TILDEgSMALL LETTER E WITH TILDE",
    "gCAPITAL LETTER E WITH CIRCUMFLEX AND ACUTEgSMALL LETTER E WITH CIRCUMFLEX AND ACUTE",
    "gCAPITAL LETTER E WITH CIRCUMFLEX AND GRAVEgSMALL LETTER E WITH CIRCUMFLEX AND GRAVE",
    "gCAPITAL LETTER E WITH CIRCUMFLEX AND HOOK ABOVE",
    "gSMALL LETTER E WITH CIRCUMFLEX AND HOOK ABOVEgCAPITAL LETTER E WITH CIRCUMFLEX AND TILDE",
    "gSMALL LETTER E WITH CIRCUMFLEX AND TILDEgCAPITAL LETTER E WITH CIRCUMFLEX AND DOT BELOW",
    "gSMALL LETTER E WITH CIRCUMFLEX AND DOT BELOWgCAPITAL LETTER I WITH HOOK ABOVE",
    "gSMALL LETTER I WITH HOOK ABOVEgCAPITAL LETTER I WITH DOT BELOW",
    "gSMALL LETTER I WITH DOT BELOWgCAPITAL LETTER O WITH DOT BELOW",
    "gSMALL LETTER O WITH DOT BELOWgCAPITAL LETTER O WITH HOOK ABOVE",
    "gSMALL LETTER O WITH HOOK ABOVEgCAPITAL LETTER O WITH CIRCUMFLEX AND ACUTE",
    "gSMALL LETTER O WITH CIRCUMFLEX AND ACUTEgCAPITAL LETTER O WITH CIRCUMFLEX AND GRAVE",
    "gSMALL LETTER O WITH CIRCUMFLEX AND GRAVEgCAPITAL LETTER O WITH CIRCUMFLEX AND HOOK ABOVE",
    "gSMALL LETTER O WITH CIRCUMFLEX AND HOOK ABOVEgCAPITAL LETTER O WITH CIRCUMFLEX AND TILDE",
    "gSMALL LETTER O WITH CIRCUMFLEX AND TILDEgCAPITAL LETTER O WITH CIRCUMFLEX AND DOT BELOW",
    "gSMALL LETTER O WITH CIRCUMFLEX AND DOT BELOWgCAPITAL LETTER O WITH HORN AND ACUTE",
    "gSMALL LETTER O WITH HORN AND ACUTEgCAPITAL LETTER O WITH HORN AND GRAVE",
    "gSMALL LETTER O WITH HORN AND GRAVEgCAPITAL LETTER O WITH HORN AND HOOK ABOVE",
    "gSMALL LETTER O WITH HORN AND HOOK ABOVEgCAPITAL LETTER O WITH HORN AND TILDE",
    "gSMALL LETTER O WITH HORN AND TILDEgCAPITAL LETTER O WITH HORN AND DOT BELOW",
    "gSMALL LETTER O WITH HORN AND DOT BELOWgCAPITAL LETTER U WITH DOT BELOW",
    "gSMALL LETTER U WITH DOT BELOWgCAPITAL LETTER U WITH HOOK ABOVE",
    "gSMALL LETTER U WITH HOOK ABOVEgCAPITAL LETTER U WITH HORN AND ACUTE",
    "gSMALL LETTER U WITH HORN AND ACUTEgCAPITAL LETTER U WITH HORN AND GRAVE",
    "gSMALL LETTER U WITH HORN AND GRAVEgCAPITAL LETTER U WITH HORN AND HOOK ABOVE",
    "gSMALL LETTER U WITH HORN AND HOOK ABOVEgCAPITAL LETTER U WITH HORN AND TILDE",
    "gSMALL LETTER U WITH HORN AND TILDEgCAPITAL LETTER U WITH HORN AND DOT BELOW",
    "gSMALL LETTER U WITH HORN AND DOT BELOWgCAPITAL LETTER Y WITH GRAVE",
    "gSMALL LETTER Y WITH GRAVEgCAPITAL LETTER Y WITH DOT BELOWgSMALL LETTER Y WITH DOT BELOW",
    "gCAPITAL LETTER Y WITH HOOK ABOVEgSMALL LETTER Y WITH HOOK ABOVE",
    "gCAPITAL LETTER Y WITH TILDEgSMALL LETTER Y WITH TILDEgCAPITAL LETTER MIDDLE-WELSH LL",
    "gSMALL LETTER MIDDLE-WELSH LLgCAPITAL LETTER MIDDLE-WELSH VgSMALL LETTER MIDDLE-WELSH V",
    "gCAPITAL LETTER Y WITH LOOPgSMALL LETTER Y WITH LOOPaGREEK SMALL LETTER ALPHA WITH PSILI",
    "zWITH DASIAzWITH PSILI AND VARIAzWITH DASIA AND VARIAzWITH PSILI AND OXIA",
    "zWITH DASIA AND OXIAzWITH PSILI AND PERISPOMENIzWITH DASIA AND PERISPOMENI",
    "gCAPITAL LETTER ALPHA WITH PSILIzA WITH DASIAzA WITH PSILI AND VARIA",
    "zA WITH DASIA AND VARIAzA WITH PSILI AND OXIAzA WITH DASIA AND OXIA",
    "zA WITH PSILI AND PERISPOMENIzA WITH DASIA AND PERISPOMENI",
    "gSMALL LETTER EPSILON WITH PSILIzN WITH DASIAzN WITH PSILI AND VARIA",
    "zN WITH DASIA AND VARIAzN WITH PSILI AND OXIAzN WITH DASIA AND OXIA"]⟩,
  ⟨7960, ["aGREEK CAPITAL LETTER EPSILON WITH PSILIzLON WITH DASIAzLON WITH PSILI AND VARIA",
    "zLON WITH DASIA AND VARIAzLON WITH PSILI AND OXIAzLON WITH DASIA AND OXIA"]⟩,
  ⟨7968, ["aGREEK SMALL LETTER ETA WITH PSILIzTH DASIAzTH PSILI AND VARIAzTH DASIA AND VARIA",
    "zTH PSILI AND OXIAzTH DASIA AND OXIAzTH PSILI AND PERISPOMENIzTH DASIA AND PERISPOMENI",
    "gCAPITAL LETTER ETA WITH PSILIzWITH DASIAzWITH PSILI AND VARIAzWITH DASIA AND VARIA",
    "zWITH PSILI AND OXIAzWITH DASIA AND OXIAzWITH PSILI AND PERISPOMENI",
    "zWITH DASIA AND PERISPOMENIgSMALL LETTER IOTA WITH PSILIzITH DASIAzITH PSILI AND VARIA",
    "zITH DASIA AND VARIAzITH PSILI AND OXIAzITH DASIA AND OXIAzITH PSILI AND PERISPOMENI",
    "zITH DASIA AND PERISPOMENIgCAPITAL LETTER IOTA WITH PSILIz WITH DASIA",
    "z WITH PSILI AND VARIAz WITH DASIA AND VARIAz WITH PSILI AND OXIAz WITH DASIA AND OXIA",
    "z WITH PSILI AND PERISPOMENIz WITH DASIA AND PERISPOMENIgSMALL LETTER OMICRON WITH PSILI",
    "zN WITH DASIAzN WITH PSILI AND VARIAzN WITH DASIA AND VARIAzN WITH PSILI AND OXIA",
    "zN WITH DASIA AND OXIA"]⟩,
  ⟨8008, ["aGREEK CAPITAL LETTER OMICRON WITH PSILIzRON WITH DASIAzRON WITH PSILI AND VARIA",
    "zRON WITH DASIA AND VARIAzRON WITH PSILI AND OXIAzRON WITH DASIA AND OXIA"]⟩,
  ⟨8016, ["aGREEK SMALL LETTER UPSILON WITH PSILIzN WITH DASIAzN WITH PSILI AND VARIA",
    "zN WITH DASIA AND VARIAzN WITH PSILI AND OXIAzN WITH DASIA AND OXIA",
    "zN WITH PSILI AND PERISPOMENIzN WITH DASIA AND PERISPOMENI"]⟩,
  ⟨8025, ["aGREEK CAPITAL LETTER UPSILON WITH DASIA"]⟩,
  ⟨8027, ["aGREEK CAPITAL LETTER UPSILON WITH DASIA AND VARIA"]⟩,
  ⟨8029, ["aGREEK CAPITAL LETTER UPSILON WITH DASIA AND OXIA"]⟩,
  ⟨8031, ["aGREEK CAPITAL LETTER UPSILON WITH DASIA AND PERISPOMENI",
    "gSMALL LETTER OMEGA WITH PSILIzWITH DASIAzWITH PSILI AND VARIAzWITH DASIA AND VARIA",
    "zWITH PSILI AND OXIAzWITH DASIA AND OXIAzWITH PSILI AND PERISPOMENI",
    "zWITH DASIA AND PERISPOMENIgCAPITAL LETTER OMEGA WITH PSILIzA WITH DASIA",
    "zA WITH PSILI AND VARIAzA WITH DASIA AND VARIAzA WITH PSILI AND OXIA",
    "zA WITH DASIA AND OXIAzA WITH PSILI AND PERISPOMENIzA WITH DASIA AND PERISPOMENI",
    "gSMALL LETTER ALPHA WITH VARIAzWITH OXIAtEPSILON WITH VARIAzN WITH OXIAuTA WITH VARIA",
    "zTH OXIAtIOTA WITH VARIAzITH OXIAtOMICRON WITH VARIAzN WITH OXIAtUPSILON WITH VARIA",
    "zN WITH OXIAtOMEGA WITH VARIAzWITH OXIA"]⟩,
  ⟨8064, ["aGREEK SMALL LETTER ALPHA WITH PSILI AND YPOGEGRAMMENIzWITH DASIA AND YPOGEGRAMMENI",
    "zWITH PSILI AND VARIA AND YPOGEGRAMMENIzWITH DASIA AND VARIA AND YPOGEGRAMMENI",
    "zWITH PSILI AND OXIA AND YPOGEGRAMMENIzWITH DASIA AND OXIA AND YPOGEGRAMMENI",
    "zWITH PSILI AND PERISPOMENI AND YPOGEGRAMMENI",
    "zWITH DASIA AND PERISPOMENI AND YPOGEGRAMMENI",
    "gCAPITAL LETTER ALPHA WITH PSILI AND PROSGEGRAMMENIzA WITH DASIA AND PROSGEGRAMMENI",
    "zA WITH PSILI AND VARIA AND PROSGEGRAMMENIzA WITH DASIA AND VARIA AND PROSGEGRAMMENI",
    "zA WITH PSILI AND OXIA AND PROSGEGRAMMENIzA WITH DASIA AND OXIA AND PROSGEGRAMMENI",
    "zA WITH PSILI AND PERISPOMENI AND PROSGEGRAMMENI",
    "zA WITH DASIA AND PERISPOMENI AND PROSGEGRAMMENI",
    "gSMALL LETTER ETA WITH PSILI AND YPOGEGRAMMENIzTH DASIA AND YPOGEGRAMMENI",
    "zTH PSILI AND VARIA AND YPOGEGRAMMENIzTH DASIA AND VARIA AND YPOGEGRAMMENI",
    "zTH PSILI AND OXIA AND YPOGEGRAMMENIzTH DASIA AND OXIA AND YPOGEGRAMMENI",
    "zTH PSILI AND PERISPOMENI AND YPOGEGRAMMENIzTH DASIA AND PERISPOMENI AND YPOGEGRAMMENI",
    "gCAPITAL LETTER ETA WITH PSILI AND PROSGEGRAMMENIzWITH DASIA AND PROSGEGRAMMENI",
    "zWITH PSILI AND VARIA AND PROSGEGRAMMENIzWITH DASIA AND VARIA AND PROSGEGRAMMENI",
    "zWITH PSILI AND OXIA AND PROSGEGRAMMENIzWITH DASIA AND OXIA AND PROSGEGRAMMENI",
    "zWITH PSILI AND PERISPOMENI AND PROSGEGRAMMENI",
    "zWITH DASIA AND PERISPOMENI AND PROSGEGRAMMENI",
    "gSMALL LETTER OMEGA WITH PSILI AND YPOGEGRAMMENIzWITH DASIA AND YPOGEGRAMMENI",
    "zWITH PSILI AND VARIA AND YPOGEGRAMMENIzWITH DASIA AND VARIA AND YPOGEGRAMMENI",
    "zWITH PSILI AND OXIA AND YPOGEGRAMMENIzWITH DASIA AND OXIA AND YPOGEGRAMMENI",
    "zWITH PSILI AND PERISPOMENI AND YPOGEGRAMMENI",
    "zWITH DASIA AND PERISPOMENI AND YPOGEGRAMMENI",
    "gCAPITAL LETTER OMEGA WITH PSILI AND PROSGEGRAMMENIzA WITH DASIA AND PROSGEGRAMMENI",
    "zA WITH PSILI AND VARIA AND PROSGEGRAMMENIzA WITH DASIA AND VARIA AND PROSGEGRAMMENI",
    "zA WITH PSILI AND OXIA AND PROSGEGRAMMENIzA WITH DASIA AND OXIA AND PROSGEGRAMMENI",
    "zA WITH PSILI AND PERISPOMENI AND PROSGEGRAMMENI",
    "zA WITH DASIA AND PERISPOMENI AND PROSGEGRAMMENIgSMALL LETTER ALPHA WITH VRACHY",
    "zWITH MACRONzWITH VARIA AND YPOGEGRAMMENIzWITH YPOGEGRAMMENIzWITH OXIA AND YPOGEGRAMMENI"]⟩,
  ⟨8118, ["aGREEK SMALL LETTER ALPHA WITH PERISPOMENIzWITH PERISPOMENI AND YPOGEGRAMMENI",
    "gCAPITAL LETTER ALPHA WITH VRACHYzA WITH MACRONzA WITH VARIAzA WITH OXIA",
    "zA WITH PROSGEGRAMMENIgKORONISgPROSGEGRAMMENIhSILIhERISPOMENIgDIALYTIKA AND PERISPOMENI",
    "gSMALL LETTER ETA WITH VARIA AND YPOGEGRAMMENIzTH YPOGEGRAMMENIzTH OXIA AND YPOGEGRAMMENI"]⟩,
  ⟨8134, ["aGREEK SMALL LETTER ETA WITH PERISPOMENIzTH PERISPOMENI AND YPOGEGRAMMENI",
    "gCAPITAL LETTER EPSILON WITH VARIAzLON WITH OXIAwTA WITH VARIAzWITH OXIA",
    "zWITH PROSGEGRAMMENIgPSILI AND VARIAqOXIAqPERISPOMENIgSMALL LETTER IOTA WITH VRACHY",
    "zITH MACRONzITH DIALYTIKA AND VARIAzITH DIALYTIKA AND OXIA"]⟩,
  ⟨8150, ["aGREEK SMALL LETTER IOTA WITH PERISPOMENIzITH DIALYTIKA AND PERISPOMENI",
    "gCAPITAL LETTER IOTA WITH VRACHYz WITH MACRONz WITH VARIAz WITH OXIA"]⟩,
  ⟨8157, ["aGREEK DASIA AND VARIAqOXIAqPERISPOMENIgSMALL LETTER UPSILON WITH VRACHY",
    "zN WITH MACRONzN WITH DIALYTIKA AND VARIAzN WITH DIALYTIKA AND OXIAtRHO WITH PSILI",
    "zTH DASIAtUPSILON WITH PERISPOMENIzN WITH DIALYTIKA AND PERISPOMENI",
    "gCAPITAL LETTER UPSILON WITH VRACHYzLON WITH MACRONzLON WITH VARIAzLON WITH OXIA",
    "vRHO WITH DASIAgDIALYTIKA AND VARIAuOXIAgVARIA"]⟩,
  ⟨8178, ["aGREEK SMALL LETTER OMEGA WITH VARIA AND YPOGEGRAMMENIzWITH YPOGEGRAMMENI",
    "zWITH OXIA AND YPOGEGRAMMENI"]⟩,
  ⟨8182, ["aGREEK SMALL LETTER OMEGA WITH PERISPOMENIzWITH PERISPOMENI AND YPOGEGRAMMENI",
    "gCAPITAL LETTER OMICRON WITH VARIAzRON WITH OXIAxEGA WITH VARIAzA WITH OXIA",
    "zA WITH PROSGEGRAMMENIgOXIAgDASIA"]⟩]

end LineScript.Text
