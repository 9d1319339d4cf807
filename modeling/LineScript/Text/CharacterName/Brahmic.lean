import LineScript.Text.CharacterName.Block

/-!
Names of the characters of the scripts of South Asia, Thailand, Laos and Tibet.
-/

namespace LineScript.Text

def brahmicNames : Array NameBlock := #[
  ⟨2304, ["aDEVANAGARI SIGN INVERTED CANDRABINDUqCANDRABINDUqANUSVARAqVISARGAlLETTER SHORT AsA",
    "tAsItIsUtUsVOCALIC Rz LsCANDRA EsSHORT EsEsAIsCANDRA OsSHORT OsOsAUsKAtHAsGAtHAsNGAsCAtHA",
    "sJAtHAsNYAsTTAuHAsDDAuHAsNNAsTAtHAsDAtHAsNAtNNAsPAtHAsBAtHAsMAsYAsRAtRAsLAtLAuLAsVAsSHA",
    "tSAtAsHAlVOWEL SIGN OExOElSIGN NUKTAqAVAGRAHAlVOWEL SIGN AAwIxIwUxUwVOCALIC RzALIC RR",
    "wCANDRA EwSHORT EwEwAIwCANDRA OwSHORT OwOwAUlSIGN VIRAMAlVOWEL SIGN PRISHTHAMATRA EwAWlOM",
    "lSTRESS SIGN UDATTAxANUDATTAlGRAVE ACCENTlACUTE ACCENTlVOWEL SIGN CANDRA LONG EwUExUE",
    "lLETTER QAsKHHAsGHHAsZAsDDDHAsRHAsFAsYYAsVOCALIC RRz LLlVOWEL SIGN VOCALIC LzALIC LL",
    "lDANDAmOUBLE DANDAmIGIT ZEROrONErTWOsHREErFOURsIVErSIXsEVENrEIGHTrNINElABBREVIATION SIGN",
    "lSIGN HIGH SPACING DOTlLETTER CANDRA AsOEtOEsAWsUEtUEsMARWARI DDAsZHAsHEAVY YAsGGAsJJA",
    "sGLOTTAL STOPsDDDAsBBAaBENGALI ANJIiSIGN CANDRABINDUnANUSVARAnVISARGA"]⟩,
  ⟨2437, ["aBENGALI LETTER AqApIqIpUqUpVOCALIC RxL"]⟩,
  ⟨2447, ["aBENGALI LETTER EpAI"]⟩,
  ⟨2451, ["aBENGALI LETTER OpAUpKAqHApGAqHApNGApCAqHApJAqHApNYApTTArHApDDArHApNNApTAqHApDAqHA",
    "pNA"]⟩,
  ⟨2474, ["aBENGALI LETTER PAqHApBAqHApMApYApRA"]⟩,
  ⟨2482, ["aBENGALI LETTER LA"]⟩,
  ⟨2486, ["aBENGALI LETTER SHAqSAqApHA"]⟩,
  ⟨2492, ["aBENGALI SIGN NUKTAnAVAGRAHAiVOWEL SIGN AAtIuItUuUtVOCALIC RzC RR"]⟩,
  ⟨2503, ["aBENGALI VOWEL SIGN EtAI"]⟩,
  ⟨2507, ["aBENGALI VOWEL SIGN OtAUiSIGN VIRAMAiLETTER KHANDA TA"]⟩,
  ⟨2519, ["aBENGALI AU LENGTH MARK"]⟩,
  ⟨2524, ["aBENGALI LETTER RRAqHA"]⟩,
  ⟨2527, ["aBENGALI LETTER YYApVOCALIC RRxLLiVOWEL SIGN VOCALIC LzC LL"]⟩,
  ⟨2534, ["aBENGALI DIGIT ZEROoONEoTWOpHREEoFOURpIVEoSIXpEVENoEIGHToNINE",
    "iLETTER RA WITH MIDDLE DIAGONALxLOWER DIAGONALiRUPEE MARKoSIGNiCURRENCY NUMERATOR ONE",
    "zR TWOzR THREEzR FOURzR ONE LESS THAN THE DENOMINATORrDENOMINATOR SIXTEENiISSHAR",
    "iGANDA MARKiLETTER VEDIC ANUSVARAiABBREVIATION SIGNiSANDHI MARK"]⟩,
  ⟨2561, ["aGURMUKHI SIGN ADAK BINDIoBINDIoVISARGA"]⟩,
  ⟨2565, ["aGURMUKHI LETTER ArAqIrIqUrU"]⟩,
  ⟨2575, ["aGURMUKHI LETTER EEqAI"]⟩,
  ⟨2579, ["aGURMUKHI LETTER OOqAUqKArHAqGArHAqNGAqCArHAqJArHAqNYAqTTAsHAqDDAsHAqNNAqTArHAqDA",
    "rHAqNA"]⟩,
  ⟨2602, ["aGURMUKHI LETTER PArHAqBArHAqMAqYAqRA"]⟩,
  ⟨2610, ["aGURMUKHI LETTER LArLA"]⟩,
  ⟨2613, ["aGURMUKHI LETTER VAqSHA"]⟩,
  ⟨2616, ["aGURMUKHI LETTER SAqHA"]⟩,
  ⟨2620, ["aGURMUKHI SIGN NUKTA"]⟩,
  ⟨2622, ["aGURMUKHI VOWEL SIGN AAuIvIuUvU"]⟩,
  ⟨2631, ["aGURMUKHI VOWEL SIGN EEuAI"]⟩,
  ⟨2635, ["aGURMUKHI VOWEL SIGN OOuAUjSIGN VIRAMA"]⟩,
  ⟨2641, ["aGURMUKHI SIGN UDAAT"]⟩,
  ⟨2649, ["aGURMUKHI LETTER KHHAqGHHAqZAqRRA"]⟩,
  ⟨2654, ["aGURMUKHI LETTER FA"]⟩,
  ⟨2662, ["aGURMUKHI DIGIT ZEROpONEpTWOqHREEpFOURqIVEpSIXqEVENpEIGHTpNINEjTIPPIjADDAKjIRIjURA",
    "jEK ONKARjSIGN YAKASHjABBREVIATION SIGN"]⟩,
  ⟨2689, ["aGUJARATI SIGN CANDRABINDUoANUSVARAoVISARGA"]⟩,
  ⟨2693, ["aGUJARATI LETTER ArAqIrIqUrUqVOCALIC RyLjVOWEL CANDRA E"]⟩,
  ⟨2703, ["aGUJARATI LETTER EqAIjVOWEL CANDRA O"]⟩,
  ⟨2707, ["aGUJARATI LETTER OqAUqKArHAqGArHAqNGAqCArHAqJArHAqNYAqTTAsHAqDDAsHAqNNAqTArHAqDArHA",
    "qNA"]⟩,
  ⟨2730, ["aGUJARATI LETTER PArHAqBArHAqMAqYAqRA"]⟩,
  ⟨2738, ["aGUJARATI LETTER LArLA"]⟩,
  ⟨2741, ["aGUJARATI LETTER VAqSHArSArAqHA"]⟩,
  ⟨2748, ["aGUJARATI SIGN NUKTAoAVAGRAHAjVOWEL SIGN AAuIvIuUvUuVOCALIC RzIC RRuCANDRA E"]⟩,
  ⟨2759, ["aGUJARATI VOWEL SIGN EuAIuCANDRA O"]⟩,
  ⟨2763, ["aGUJARATI VOWEL SIGN OuAUjSIGN VIRAMA"]⟩,
  ⟨2768, ["aGUJARATI OM"]⟩,
  ⟨2784, ["aGUJARATI LETTER VOCALIC RRyLLjVOWEL SIGN VOCALIC LzIC LL"]⟩,
  ⟨2790, ["aGUJARATI DIGIT ZEROpONEpTWOqHREEpFOURqIVEpSIXqEVENpEIGHTpNINEjABBREVIATION SIGN",
    "jRUPEE SIGN"]⟩,
  ⟨2809, ["aGUJARATI LETTER ZHAjSIGN SUKUNpHADDAoMADDAHoTHREE-DOT NUKTA ABOVE",
    "oCIRCLE NUKTA ABOVEoTWO-CIRCLE NUKTA ABOVE"]⟩,
  ⟨2817, ["aORIYA SIGN CANDRABINDUlANUSVARAlVISARGA"]⟩,
  ⟨2821, ["aORIYA LETTER AoAnIoInUoUnVOCALIC RvL"]⟩,
  ⟨2831, ["aORIYA LETTER EnAI"]⟩,
  ⟨2835, ["aORIYA LETTER OnAUnKAoHAnGAoHAnNGAnCAoHAnJAoHAnNYAnTTApHAnDDApHAnNNAnTAoHAnDAoHAnNA"]⟩,
  ⟨2858, ["aORIYA LETTER PAoHAnBAoHAnMAnYAnRA"]⟩,
  ⟨2866, ["aORIYA LETTER LAoLA"]⟩,
  ⟨2869, ["aORIYA LETTER VAnSHAoSAoAnHA"]⟩,
  ⟨2876, ["aORIYA SIGN NUKTAlAVAGRAHAgVOWEL SIGN AArIsIrUsUrVOCALIC RzRR"]⟩,
  ⟨2887, ["aORIYA VOWEL SIGN ErAI"]⟩,
  ⟨2891, ["aORIYA VOWEL SIGN OrAUgSIGN VIRAMA"]⟩,
  ⟨2901, ["aORIYA SIGN OVERLINEgAI LENGTH MARKhU LENGTH MARK"]⟩,
  ⟨2908, ["aORIYA LETTER RRAoHA"]⟩,
  ⟨2911, ["aORIYA LETTER YYAnVOCALIC RRvLLgVOWEL SIGN VOCALIC LzLL"]⟩,
  ⟨2918, ["aORIYA DIGIT ZEROmONEmTWOnHREEmFOURnIVEmSIXnEVENmEIGHTmNINEgISSHARgLETTER WA",
    "gFRACTION ONE QUARTERtHALFpTHREE QUARTERSpONE SIXTEENTHtEIGHTHpTHREE SIXTEENTHS"]⟩,
  ⟨2946, ["aTAMIL SIGN ANUSVARAlVISARGA"]⟩,
  ⟨2949, ["aTAMIL LETTER AoAnIoInUoU"]⟩,
  ⟨2958, ["aTAMIL LETTER EoEnAI"]⟩,
  ⟨2962, ["aTAMIL LETTER OoOnAUnKA"]⟩,
  ⟨2969, ["aTAMIL LETTER NGAnCA"]⟩,
  ⟨2972, ["aTAMIL LETTER JA"]⟩,
  ⟨2974, ["aTAMIL LETTER NYAnTTA"]⟩,
  ⟨2979, ["aTAMIL LETTER NNAnTA"]⟩,
  ⟨2984, ["aTAMIL LETTER NAoNNAnPA"]⟩,
  ⟨2990, ["aTAMIL LETTER MAnYAnRAoRAnLAoLApLAnVAnSHAoSAoAnHA"]⟩,
  ⟨3006, ["aTAMIL VOWEL SIGN AArIsIrUsU"]⟩,
  ⟨3014, ["aTAMIL VOWEL SIGN EsErAI"]⟩,
  ⟨3018, ["aTAMIL VOWEL SIGN OsOrAUgSIGN VIRAMA"]⟩,
  ⟨3024, ["aTAMIL OM"]⟩,
  ⟨3031, ["aTAMIL AU LENGTH MARK"]⟩,
  ⟨3046, ["aTAMIL DIGIT ZEROmONEmTWOnHREEmFOURnIVEmSIXnEVENmEIGHTmNINEgNUMBER TENnONE HUNDRED",
    "rTHOUSANDgDAY SIGNgMONTH SIGNgYEAR SIGNgDEBIT SIGNgCREDIT SIGNgAS ABOVE SIGNgRUPEE SIGN",
    "gNUMBER SIGN"]⟩,
  ⟨3072, ["aTELUGU SIGN COMBINING CANDRABINDU ABOVEnANDRABINDUmANUSVARAmVISARGA",
    "mCOMBINING ANUSVARA ABOVEhLETTER ApAoIpIoUpUoVOCALIC RwL"]⟩,
  ⟨3086, ["aTELUGU LETTER EpEoAI"]⟩,
  ⟨3090, ["aTELUGU LETTER OpOoAUoKApHAoGApHAoNGAoCApHAoJApHAoNYAoTTAqHAoDDAqHAoNNAoTApHAoDApHA",
    "oNA"]⟩,
  ⟨3114, ["aTELUGU LETTER PApHAoBApHAoMAoYAoRApRAoLApLAqLAoVAoSHApSApAoHA"]⟩,
  ⟨3132, ["aTELUGU SIGN NUKTAmAVAGRAHAhVOWEL SIGN AAsItIsUtUsVOCALIC Rz RR"]⟩,
  ⟨3142, ["aTELUGU VOWEL SIGN EtEsAI"]⟩,
  ⟨3146, ["aTELUGU VOWEL SIGN OtOsAUhSIGN VIRAMA"]⟩,
  ⟨3157, ["aTELUGU LENGTH MARKhAI LENGTH MARK"]⟩,
  ⟨3160, ["aTELUGU LETTER TSAoDZAoRRRA"]⟩,
  ⟨3165, ["aTELUGU LETTER NAKAARA POLLU"]⟩,
  ⟨3168, ["aTELUGU LETTER VOCALIC RRwLLhVOWEL SIGN VOCALIC Lz LL"]⟩,
  ⟨3174, ["aTELUGU DIGIT ZEROnONEnTWOoHREEnFOURoIVEnSIXoEVENnEIGHTnNINE"]⟩,
  ⟨3191, ["aTELUGU SIGN SIDDHAMhFRACTION DIGIT ZERO FOR ODD POWERS OF FOUR",
    "wONE FOR ODD POWERS OF FOURwTWO FOR ODD POWERS OF FOURxHREE FOR ODD POWERS OF FOUR",
    "wONE FOR EVEN POWERS OF FOURwTWO FOR EVEN POWERS OF FOURxHREE FOR EVEN POWERS OF FOUR",
    "hSIGN TUUMUaKANNADA SIGN SPACING CANDRABINDUnCANDRABINDUnANUSVARAnVISARGAnSIDDHAM",
    "iLETTER AqApIqIpUqUpVOCALIC RxL"]⟩,
  ⟨3214, ["aKANNADA LETTER EqEpAI"]⟩,
  ⟨3218, ["aKANNADA LETTER OqOpAUpKAqHApGAqHApNGApCAqHApJAqHApNYApTTArHApDDArHApNNApTAqHApDA",
    "qHApNA"]⟩,
  ⟨3242, ["aKANNADA LETTER PAqHApBAqHApMApYApRAqRApLAqLA"]⟩,
  ⟨3253, ["aKANNADA LETTER VApSHAqSAqApHA"]⟩,
  ⟨3260, ["aKANNADA SIGN NUKTAnAVAGRAHAiVOWEL SIGN AAtIuItUuUtVOCALIC RzC RR"]⟩,
  ⟨3270, ["aKANNADA VOWEL SIGN EuEtAI"]⟩,
  ⟨3274, ["aKANNADA VOWEL SIGN OuOtAUiSIGN VIRAMA"]⟩,
  ⟨3285, ["aKANNADA LENGTH MARKiAI LENGTH MARK"]⟩,
  ⟨3293, ["aKANNADA LETTER NAKAARA POLLUpFA"]⟩,
  ⟨3296, ["aKANNADA LETTER VOCALIC RRxLLiVOWEL SIGN VOCALIC LzC LL"]⟩,
  ⟨3302, ["aKANNADA DIGIT ZEROoONEoTWOpHREEoFOURpIVEoSIXpEVENoEIGHToNINE"]⟩,
  ⟨3313, ["aKANNADA SIGN JIHVAMULIYAnUPADHMANIYA"]⟩,
  ⟨3328, ["aMALAYALAM SIGN COMBINING ANUSVARA ABOVEqANDRABINDUpANUSVARApVISARGA",
    "kLETTER VEDIC ANUSVARArAsArIsIrUsUrVOCALIC RzL"]⟩,
  ⟨3342, ["aMALAYALAM LETTER EsErAI"]⟩,
  ⟨3346, ["aMALAYALAM LETTER OsOrAUrKAsHArGAsHArNGArCAsHArJAsHArNYArTTAtHArDDAtHArNNArTAsHArDA",
    "sHArNAsNNArPAsHArBAsHArMArYArRAsRArLAsLAtLArVArSHAsSAsArHArTTTAkSIGN VERTICAL BAR VIRAMA",
    "pCIRCULAR VIRAMApAVAGRAHAkVOWEL SIGN AAvIwIvUwUvVOCALIC RzLIC RR"]⟩,
  ⟨3398, ["aMALAYALAM VOWEL SIGN EwEvAI"]⟩,
  ⟨3402, ["aMALAYALAM VOWEL SIGN OwOvAUkSIGN VIRAMAkLETTER DOT REPHkSIGN PARA"]⟩,
  ⟨3412, ["aMALAYALAM LETTER CHILLU MyYyLLLkAU LENGTH MARK",
    "kFRACTION ONE ONE-HUNDRED-AND-SIXTIETHxFORTIETHtTHREE EIGHTIETHStONE TWENTIETHyENTH",
    "tTHREE TWENTIETHStONE FIFTHkLETTER ARCHAIC IIrVOCALIC RRzLLkVOWEL SIGN VOCALIC LzLIC LL"]⟩,
  ⟨3430, ["aMALAYALAM DIGIT ZEROqONEqTWOrHREEqFOURrIVEqSIXrEVENqEIGHTqNINEkNUMBER TEN",
    "rONE HUNDREDvTHOUSANDkFRACTION ONE QUARTERxHALFtTHREE QUARTERStONE SIXTEENTHxEIGHTH",
    "tTHREE SIXTEENTHSkDATE MARKkLETTER CHILLU NNzyRRyLzLyK"]⟩,
  ⟨3457, ["aSINHALA SIGN CANDRABINDUnANUSVARAYAnVISARGAYA"]⟩,
  ⟨3461, ["aSINHALA LETTER AYANNAqAYANNAqEYANNArEYANNApIYANNAqIYANNApUYANNAqUYANNApIRUYANNA",
    "sUYANNAqLUYANNAsUYANNApEYANNAqEYANNApAIYANNApOYANNAqOYANNApAUYANNA"]⟩,
  ⟨3482, ["aSINHALA LETTER ALPAPRAANA KAYANNApMAHAAPRAANA KAYANNApALPAPRAANA GAYANNA",
    "pMAHAAPRAANA GAYANNApKANTAJA NAASIKYAYApSANYAKA GAYANNApALPAPRAANA CAYANNA",
    "pMAHAAPRAANA CAYANNApALPAPRAANA JAYANNApMAHAAPRAANA JAYANNApTAALUJA NAASIKYAYA",
    "xSANYOOGA NAAKSIKYAYApSANYAKA JAYANNApALPAPRAANA TTAYANNApMAHAAPRAANA TTAYANNA",
    "pALPAPRAANA DDAYANNApMAHAAPRAANA DDAYANNAqUURDHAJA NAYANNApSANYAKA DDAYANNA",
    "pALPAPRAANA TAYANNApMAHAAPRAANA TAYANNApALPAPRAANA DAYANNApMAHAAPRAANA DAYANNA",
    "pDANTAJA NAYANNA"]⟩,
  ⟨3507, ["aSINHALA LETTER SANYAKA DAYANNApALPAPRAANA PAYANNApMAHAAPRAANA PAYANNA",
    "pALPAPRAANA BAYANNApMAHAAPRAANA BAYANNArYANNApAMBA BAYANNApYAYANNApRAYANNA"]⟩,
  ⟨3517, ["aSINHALA LETTER DANTAJA LAYANNA"]⟩,
  ⟨3520, ["aSINHALA LETTER VAYANNApTAALUJA SAYANNApMUURDHAJA SAYANNApDANTAJA SAYANNApHAYANNA",
    "pMUURDHAJA LAYANNApFAYANNA"]⟩,
  ⟨3530, ["aSINHALA SIGN AL-LAKUNA"]⟩,
  ⟨3535, ["aSINHALA VOWEL SIGN AELA-PILLAtKETTI AEDA-PILLAtDIGA AEDA-PILLAtKETTI IS-PILLA",
    "tDIGA IS-PILLAtKETTI PAA-PILLA"]⟩,
  ⟨3542, ["aSINHALA VOWEL SIGN DIGA PAA-PILLA"]⟩,
  ⟨3544, ["aSINHALA VOWEL SIGN GAETTA-PILLAtKOMBUVAtDIGA KOMBUVAtKOMBU DEKAyVA HAA AELA-PILLA",
    "zA HAA DIGA AELA-PILLAzA HAA GAYANUKITTAtGAYANUKITTA"]⟩,
  ⟨3558, ["aSINHALA LITH DIGIT ZEROtONEtTWOuHREEtFOURuIVEtSIXuEVENtEIGHTtNINE"]⟩,
  ⟨3570, ["aSINHALA VOWEL SIGN DIGA GAETTA-PILLAzAYANUKITTAiPUNCTUATION KUNDDALIYA"]⟩,
  ⟨3585, ["aTHAI CHARACTER KO KAIqHO KHAIvUATvWAIvONtRAKHANGpNGO NGUpCHO CHANvINGvANGpSO SO",
    "pCHO CHOEpYO YINGpDO CHADApTO PATAKqHO THANtNANGMONTHOtPHUTHAOpNO NENpDO DEKpTO TAO",
    "qHO THUNGvAHANvONGpNO NUpBO BAIMAIpPO PLAqHO PHUNGpFO FApPHO PHANpFO FANpPHO SAMPHAO",
    "pMO MApYO YAKpRO RUAqUpLO LINGqUpWO WAENpSO SALAsRUSIsSUApHO HIPpLO CHULApO ANGpHO NOKHUK",
    "pPAIYANNOIpSARA ApMAI HAN-AKATpSARA AAvMuIvIuUEwEvvUpPHINTHU"]⟩,
  ⟨3647, ["aTHAI CURRENCY SYMBOL BAHTgHARACTER SARA EuAEuOuAI MAIMUANzIMALAIpLAKKHANGYAO",
    "pMAIYAMOKsTAIKHUs EKtTHOuRItCHATTAWApTHANTHAKHATpNIKHAHITpYAMAKKANpFONGMANfDIGIT ZEROlONE",
    "lTWOmHREElFOURmIVElSIXmEVENlEIGHTlNINEfCHARACTER ANGKHANKHUpKHOMUT"]⟩,
  ⟨3713, ["aLAO LETTER KOmHO SUNG"]⟩,
  ⟨3716, ["aLAO LETTER KHO TAM"]⟩,
  ⟨3718, ["aLAO LETTER PALI GHAlNGOlCOlPALI CHAlSO TAM"]⟩,
  ⟨3724, ["aLAO LETTER PALI JHAlNYOlPALI NYAqTTAsHAqDDAsHAqNNAlDOlTOmHO SUNGpTAMlPALI DHAlNO",
    "lBOlPOmHO SUNGlFO TAMlPHO TAMlFO SUNGlPALI BHAlMOlYOlLO LING"]⟩,
  ⟨3749, ["aLAO LETTER LO LOOT"]⟩,
  ⟨3751, ["aLAO LETTER WOlSANSKRIT SHAvSAmO SUNGlHO SUNGlPALI LLAlOlHO TAMeELLIPSIS",
    "eVOWEL SIGN ApMAI KANpAAqMpIqIpYqYpUqUeSIGN PALI VIRAMAeVOWEL SIGN MAI KON",
    "eSEMIVOWEL SIGN LOtNYO"]⟩,
  ⟨3776, ["aLAO VOWEL SIGN EqIpOpAYqI"]⟩,
  ⟨3782, ["aLAO KO LA"]⟩,
  ⟨3784, ["aLAO TONE MAI EKnTHOoInCATAWAeCANCELLATION MARKeNIGGAHITA"]⟩,
  ⟨3792, ["aLAO DIGIT ZEROkONEkTWOlHREEkFOURlIVEkSIXlEVENkEIGHTkNINE"]⟩,
  ⟨3804, ["aLAO HO NOhMOeLETTER KHMU GOqNYO"]⟩,
  ⟨3840, ["aTIBETAN SYLLABLE OMiMARK GTER YIG MGO TRUNCATED Az -UM RNAM BCAD MA",
    "z -UM GTER TSHEG MAnINITIAL YIG MGO MDUN MAnCLOSING YIG MGO SGAB MA",
    "oARET YIG MGO PHUR SHAD MAnYIG MGO TSHEG SHAD MAnSBRUL SHADnBSKUR YIG MGO",
    "oKA- SHOG YIG MGOnINTERSYLLABIC TSHEGnDELIMITER TSHEG BSTARnSHADnNYIS SHADnTSHEG SHAD",
    "nNYIS TSHEG SHADnRIN CHEN SPUNGS SHADoGYA GRAM SHADnCARET -DZUD RTAGS ME LONG CAN",
    "nGTER TSHEGiLOGOTYPE SIGN CHAD RTAGSwLHAG RTAGSiASTROLOGICAL SIGN SGRA GCAN -CHAR RTAGS",
    "z -KHYUD PAz SDONG TSHUGSiSIGN RDEL DKAR GCIGyNYISySUMsNAG GCIGxNYISsDKAR RDEL NAG",
    "iDIGIT ZEROoONEoTWOpHREEoFOURpIVEoSIXpEVENoEIGHToNINEoHALF ONEtTWOuHREEtFOURuIVEtSIXuEVEN",
    "tEIGHTtNINEtZEROiMARK BSDUS RTAGSnNGAS BZUNG NYI ZLAnCARET -DZUD RTAGS BZHI MIG CAN",
    "nNGAS BZUNG SGOR RTAGSnCHE MGOnTSA -PHRUnGUG RTAGS GYONzASnANG KHANG GYONzAS",
    "iSIGN YAR TSHESnMAR TSHESiLETTER KAqHApGAqHApNGApCAqHApJA"]⟩,
  ⟨3913, ["aTIBETAN LETTER NYApTTArHApDDArHApNNApTAqHApDAqHApNApPAqHApBAqHApMApTSArHApDZArHA",
    "pWApZHAqAp-ApYApRApLApSHAqSAqApHApApKSSApFIXED-FORM RApKKApRRA"]⟩,
  ⟨3953, ["aTIBETAN VOWEL SIGN AAtIuItUuUtVOCALIC RzC RRzC LzC LLtEuEtOuOiSIGN RJES SU NGA RO",
    "oNAM BCADiVOWEL SIGN REVERSED IzED IIiSIGN NYI ZLA NAA DAnSNA LDANiMARK HALANTAnPALUTA",
    "iSIGN LCI RTAGSnYANG RTAGSnLCE TSA CANnMCHU CANnGRU CAN RGYINGSrMED RGYINGS",
    "nINVERTED MCHU CANjUBJOINED SIGN LCE TSA CANxMCHU CANxINVERTED MCHU CANsLETTER KAzKHAzGA",
    "zGHAzNGAzCAzCHAzJA"]⟩,
  ⟨3993, ["aTIBETAN SUBJOINED LETTER NYAzTTAzTTHAzDDAzDDHAzNNAzTAzTHAzDAzDHAzNAzPAzPHAzBAzBHA",
    "zMAzTSAzTSHAzDZAzDZHAzWAzZHAzZAz-AzYAzRAzLAzSHAzSSAzSAzHAzAzKSSAzFIXED-FORM WA",
    "zFIXED-FORM YAzFIXED-FORM RA"]⟩,
  ⟨4030, ["aTIBETAN KU RU KHAr BZHI MIG CANiCANTILLATION SIGN HEAVY BEATz LIGHT BEAT",
    "z CANG TE-Uz SBUB -CHALiSYMBOL DRIL BUpRDO RJEpPADMA GDANpRDO RJE RGYA GRAMpPHUR PA",
    "pNOR BUv NYIS -KHYILwGSUM -KHYILwBZHI -KHYIL"]⟩,
  ⟨4046, ["aTIBETAN SIGN RDEL NAG RDEL DKARwGSUMiMARK BSKA- SHOG GI MGO RGYAN",
    "nMNYAM YIG GI MGO RGYANnNYIS TSHEGnINITIAL BRDA RNYING YIG MGO MDUN MA",
    "nCLOSING BRDA RNYING YIG MGO SGAB MAaRIGHT-FACING SVASTI SIGNaLEFT-FACING SVASTI SIGN",
    "aRIGHT-FACING SVASTI SIGN WITH DOTSaLEFT-FACING SVASTI SIGN WITH DOTS",
    "aTIBETAN MARK LEADING MCHAN RTAGSnTRAILING MCHAN RTAGS"]⟩]

end LineScript.Text
