import LineScript.Text.CharacterName.Block

/-!
Names of the characters of musical and mathematical notation, of game pieces and pictographs, and
of tags and selectors.
-/

namespace LineScript.Text

def notationNames : Array NameBlock := #[
  ⟨118784, ["aBYZANTINE MUSICAL SYMBOL PSILIzDASEIAzPERISPOMENIzOXEIA EKFONITIKONzOXEIA DIPLI",
    "zVAREIA EKFONITIKONzVAREIA DIPLIzKATHISTIzSYRMATIKIzPARAKLITIKIzYPOKRISISzYPOKRISIS DIPLI",
    "zKREMASTIzAPESO EKFONITIKONzEXO EKFONITIKONzTELEIAzKENTIMATAzAPOSTROFOSzAPOSTROFOS DIPLI",
    "zSYNEVMAzTHITAzOLIGON ARCHAIONzGORGON ARCHAIONzPSILONzCHAMILONzVATHYzISON ARCHAION",
    "zKENTIMA ARCHAIONzKENTIMATA ARCHAIONzSAXIMATAzPARICHONzSTAVROS APODEXIAzOXEIAI ARCHAION",
    "zVAREIAI ARCHAIONzAPODERMA ARCHAIONzAPOTHEMAzKLASMAzREVMAzPIASMA ARCHAIONzTINAGMA",
    "zANATRICHISMAzSEISMAzSYNAGMA ARCHAIONzSYNAGMA META STAVROUzOYRANISMA ARCHAIONzTHEMAzLEMOI",
    "zDYOzTRIAzTESSERAzKRATIMATAzAPESO EXO NEOzFTHORA ARCHAIONzIMIFTHORAzTROMIKON ARCHAION",
    "zKATAVA TROMIKONzPELASTONzPSIFISTONzKONTEVMAzCHOREVMA ARCHAIONzRAPISMA",
    "zPARAKALESMA ARCHAIONzPARAKLITIKI ARCHAIONzICHADINzNANAzPETASMAzKONTEVMA ALLO",
    "zTROMIKON ALLOzSTRAGGISMATAzGRONTHISMATAzISON NEOzOLIGON NEOzOXEIA NEOzPETASTIzKOUFISMA",
    "zPETASTOKOUFISMAzKRATIMOKOUFISMAzPELASTON NEOzKENTIMATA NEO ANOzKENTIMA NEO ANOzYPSILI",
    "zAPOSTROFOS NEOzAPOSTROFOI SYNDESMOS NEOzYPORROIzKRATIMOYPORROONzELAFRONzCHAMILI",
    "zMIKRON ISONzVAREIA NEOzPIASMA NEOzPSIFISTON NEOzOMALONzANTIKENOMAzLYGISMA",
    "zPARAKLITIKI NEOzPARAKALESMA NEOzETERON PARAKALESMAzKYLISMAzANTIKENOKYLISMAzTROMIKON NEO",
    "zEKSTREPTONzSYNAGMA NEOzSYRMAzCHOREVMA NEOzEPEGERMAzSEISMA NEOzXIRON KLASMA",
    "zTROMIKOPSIFISTONzPSIFISTOLYGISMAzTROMIKOLYGISMAzTROMIKOPARAKALESMAzPSIFISTOPARAKALESMA",
    "zTROMIKOSYNAGMAzPSIFISTOSYNAGMAzGORGOSYNTHETONzARGOSYNTHETONzETERON ARGOSYNTHETON",
    "zOYRANISMA NEOzTHEMATISMOS ESOzTHEMATISMOS EXOzTHEMA APLOUNzTHES KAI APOTHESzKATAVASMA",
    "zENDOFONONzYFEN KATOzYFEN ANOzSTAVROSzKLASMA ANOzDIPLI ARCHAIONzKRATIMA ARCHAION",
    "zKRATIMA ALLOzKRATIMA NEOzAPODERMA NEOzAPLIzDIPLIzTRIPLIzTETRAPLIzKORONIS",
    "zLEIMMA ENOS CHRONOUzLEIMMA DYO CHRONONzLEIMMA TRION CHRONONzLEIMMA TESSARON CHRONON",
    "zLEIMMA IMISEOS CHRONOUzGORGON NEO ANOzGORGON PARESTIGMENON ARISTERA",
    "zGORGON PARESTIGMENON DEXIAzDIGORGONzDIGORGON PARESTIGMENON ARISTERA KATO",
    "zDIGORGON PARESTIGMENON ARISTERA ANOzDIGORGON PARESTIGMENON DEXIAzTRIGORGONzARGON",
    "zIMIDIARGONzDIARGONzAGOGI POLI ARGIzAGOGI ARGOTERIzAGOGI ARGIzAGOGI METRIAzAGOGI MESI",
    "zAGOGI GORGIzAGOGI GORGOTERIzAGOGI POLI GORGIzMARTYRIA PROTOS ICHOS",
    "zMARTYRIA ALLI PROTOS ICHOSzMARTYRIA DEYTEROS ICHOSzMARTYRIA ALLI DEYTEROS ICHOS",
    "zMARTYRIA TRITOS ICHOSzMARTYRIA TRIFONIASzMARTYRIA TETARTOS ICHOS",
    "zMARTYRIA TETARTOS LEGETOS ICHOSzMARTYRIA LEGETOS ICHOSzMARTYRIA PLAGIOS ICHOS",
    "zISAKIA TELOUS ICHIMATOSzAPOSTROFOI TELOUS ICHIMATOSzFANEROSIS TETRAFONIAS",
    "zFANEROSIS MONOFONIASzFANEROSIS DIFONIASzMARTYRIA VARYS ICHOSzMARTYRIA PROTOVARYS ICHOS",
    "zMARTYRIA PLAGIOS TETARTOS ICHOSzGORTHMIKON N APLOUNzGORTHMIKON N DIPLOUN",
    "zENARXIS KAI FTHORA VOUzIMIFONONzIMIFTHORONzFTHORA ARCHAION DEYTEROU ICHOU",
    "zFTHORA DIATONIKI PAzFTHORA DIATONIKI NANAzFTHORA NAOS ICHOSzFTHORA DIATONIKI DI",
    "zFTHORA SKLIRON DIATONON DIzFTHORA DIATONIKI KEzFTHORA DIATONIKI ZO",
    "zFTHORA DIATONIKI NI KATOzFTHORA DIATONIKI NI ANOzFTHORA MALAKON CHROMA DIFONIAS",
    "zFTHORA MALAKON CHROMA MONOFONIASzFHTORA SKLIRON CHROMA VASIS",
    "zFTHORA SKLIRON CHROMA SYNAFIzFTHORA NENANOzCHROA ZYGOSzCHROA KLITONzCHROA SPATHI",
    "zFTHORA I YFESIS TETARTIMORIONzFTHORA ENARMONIOS ANTIFONIAzYFESIS TRITIMORION",
    "zDIESIS TRITIMORIONzDIESIS TETARTIMORIONzDIESIS APLI DYO DODEKATA",
    "zDIESIS MONOGRAMMOS TESSERA DODEKATAzDIESIS DIGRAMMOS EX DODEKATA",
    "zDIESIS TRIGRAMMOS OKTO DODEKATAzYFESIS APLI DYO DODEKATA",
    "zYFESIS MONOGRAMMOS TESSERA DODEKATAzYFESIS DIGRAMMOS EX DODEKATA",
    "zYFESIS TRIGRAMMOS OKTO DODEKATAzGENIKI DIESISzGENIKI YFESISzDIASTOLI APLI MIKRI",
    "zDIASTOLI APLI MEGALIzDIASTOLI DIPLIzDIASTOLI THESEOSzSIMANSIS THESEOS",
    "zSIMANSIS THESEOS DISIMOUzSIMANSIS THESEOS TRISIMOUzSIMANSIS THESEOS TETRASIMOU",
    "zSIMANSIS ARSEOSzSIMANSIS ARSEOS DISIMOUzSIMANSIS ARSEOS TRISIMOU",
    "zSIMANSIS ARSEOS TETRASIMOUzDIGRAMMA GGzDIFTOGGOS OUzSTIGMAzARKTIKO PAzARKTIKO VOU",
    "zARKTIKO GAzARKTIKO DIzARKTIKO KEzARKTIKO ZOzARKTIKO NIzKENTIMATA NEO MESO",
    "zKENTIMA NEO MESOzKENTIMATA NEO KATOzKENTIMA NEO KATOzKLASMA KATOzGORGON NEO KATO"]⟩,
  ⟨119040, ["aMUSICAL SYMBOL SINGLE BARLINEpDOUBLE BARLINEpFINAL BARLINEpREVERSE FINAL BARLINE",
    "pDASHED BARLINEpSHORT BARLINEpLEFT REPEAT SIGNpRIGHT REPEAT SIGNqEPEAT DOTSpDAL SEGNO",
    "r CAPOpSEGNOpCODApREPEATED FIGURE-1zIGURE-2zIGURE-3pFERMATAw BELOWpBREATH MARKpCAESURA",
    "pBRACEtKETpONE-LINE STAFFpTWO-LINE STAFFqHREE-LINE STAFFpFOUR-LINE STAFFqIVE-LINE STAFF",
    "pSIX-LINE STAFFtSTRING FRETBOARDpFOUR-STRING FRETBOARDpG CLEFv OTTAVA ALTAzAVA BASSA",
    "pC CLEFpF CLEFv OTTAVA ALTAzAVA BASSApDRUM CLEF-1z2"]⟩,
  ⟨119081, ["aMUSICAL SYMBOL MULTIPLE MEASURE RESTpDOUBLE SHARPwFLATpFLAT UPuDOWNpNATURAL UP",
    "xDOWNpSHARP UPvDOWNpQUARTER TONE SHARPzNE FLATpCOMMON TIMEqUT TIMEpOTTAVA ALTAwBASSA",
    "pQUINDICESIMA ALTAzMA BASSApMULTI RESTpWHOLE RESTpHALF RESTpQUARTER RESTpEIGHTH REST",
    "pSIXTEENTH RESTpTHIRTY-SECOND RESTpSIXTY-FOURTH RESTpONE HUNDRED TWENTY-EIGHTH REST",
    "pX NOTEHEADpPLUS NOTEHEADpCIRCLE X NOTEHEADpSQUARE NOTEHEAD WHITEzEHEAD BLACK",
    "pTRIANGLE NOTEHEAD UP WHITEzOTEHEAD UP BLACKzOTEHEAD LEFT WHITEzOTEHEAD LEFT BLACK",
    "zOTEHEAD RIGHT WHITEzOTEHEAD RIGHT BLACKzOTEHEAD DOWN WHITEzOTEHEAD DOWN BLACK",
    "zOTEHEAD UP RIGHT WHITEzOTEHEAD UP RIGHT BLACKpMOON NOTEHEAD WHITEzEAD BLACK",
    "pTRIANGLE-ROUND NOTEHEAD DOWN WHITEzOUND NOTEHEAD DOWN BLACKpPARENTHESIS NOTEHEAD",
    "pVOID NOTEHEADpNOTEHEAD BLACKqULL NOTEHEADpCLUSTER NOTEHEAD WHITEzTEHEAD BLACKpBREVE",
    "pWHOLE NOTEpHALF NOTEpQUARTER NOTEpEIGHTH NOTEpSIXTEENTH NOTEpTHIRTY-SECOND NOTE",
    "pSIXTY-FOURTH NOTEpONE HUNDRED TWENTY-EIGHTH NOTEpCOMBINING STEMzSPRECHGESANG STEM",
    "zTREMOLO-1zTREMOLO-2zTREMOLO-3pFINGERED TREMOLO-1zREMOLO-2zREMOLO-3",
    "pCOMBINING AUGMENTATION DOTzFLAG-1zFLAG-2zFLAG-3zFLAG-4zFLAG-5pBEGIN BEAMpEND BEAM",
    "pBEGIN TIEpEND TIEpBEGIN SLURpEND SLURpBEGIN PHRASEpEND PHRASEpCOMBINING ACCENTzSTACCATO",
    "zTENUTOzSTACCATISSIMOzMARCATOzMARCATO-STACCATOzACCENT-STACCATOzLOUREpARPEGGIATO UPz DOWN",
    "pCOMBINING DOITzRIPzFLIPzSMEARzBENDzDOUBLE TONGUEzTRIPLE TONGUEpRINFORZANDOpSUBITOpZ",
    "pPIANOpMEZZOpFORTEpCRESCENDOpDECRESCENDOpGRACE NOTE SLASHz NO SLASHpTRqURNpINVERTED TURN",
    "pTURN SLASHuUPpORNAMENT STROKE-1zTROKE-2zTROKE-3zTROKE-4zTROKE-5zTROKE-6zTROKE-7zTROKE-8",
    "zTROKE-9zTROKE-10zTROKE-11pHAUPTSTIMMEpNEBENSTIMMEpEND OF STIMMEpDEGREE SLASH",
    "pCOMBINING DOWN BOWzUP BOWzHARMONICzSNAP PIZZICATOpPEDAL MARKvUP MARKpHALF PEDAL MARK",
    "pGLISSANDO UPzDOWNpWITH FINGERNAILSpDAMPt ALLpMAXIMApLONGApBREVISpSEMIBREVIS WHITEz BLACK",
    "pMINIMAv BLACKpSEMIMINIMA WHITEz BLACKpFUSA WHITEuBLACKpLONGA PERFECTA REST",
    "vIMPERFECTA RESTpBREVIS RESTpSEMIBREVIS RESTpMINIMA RESTpSEMIMINIMA REST",
    "pTEMPUS PERFECTUM CUM PROLATIONE PERFECTAzFECTUM CUM PROLATIONE IMPERFECTA",
    "zFECTUM CUM PROLATIONE PERFECTA DIMINUTION-1wIMPERFECTUM CUM PROLATIONE PERFECTA",
    "zERFECTUM CUM PROLATIONE IMPERFECTAzERFECTUM CUM PROLATIONE IMPERFECTA DIMINUTION-1",
    "zERFECTUM CUM PROLATIONE IMPERFECTA DIMINUTION-2",
    "zERFECTUM CUM PROLATIONE IMPERFECTA DIMINUTION-3pCROIXpGREGORIAN C CLEFzF CLEFpSQUARE B",
    "pVIRGApPODATUSpCLIVISpSCANDICUSpCLIMACUSpTORCULUSpPORRECTUSy FLEXUSpSCANDICUS FLEXUS",
    "pTORCULUS RESUPINUSpPES SUBPUNCTISpKIEVAN C CLEFwEND OF PIECEwFINAL NOTEwRECITATIVE MARK",
    "wWHOLE NOTEwHALF NOTEwQUARTER NOTE STEM DOWNzRTER NOTE STEM UPwEIGHTH NOTE STEM DOWN",
    "zHTH NOTE STEM UPwFLAT SIGNpSORIpKORON"]⟩,
  ⟨119296, ["aGREEK VOCAL NOTATION SYMBOL-1zOL-2zOL-3zOL-4zOL-5zOL-6zOL-7zOL-8zOL-9zOL-10",
    "zOL-11zOL-12zOL-13zOL-14zOL-15zOL-16zOL-17zOL-18zOL-19zOL-20zOL-21zOL-22zOL-23zOL-24",
    "zOL-50zOL-51zOL-52zOL-53zOL-54gINSTRUMENTAL NOTATION SYMBOL-1zON SYMBOL-2zON SYMBOL-4",
    "zON SYMBOL-5zON SYMBOL-7zON SYMBOL-8zON SYMBOL-11zON SYMBOL-12zON SYMBOL-13zON SYMBOL-14",
    "zON SYMBOL-17zON SYMBOL-18zON SYMBOL-19zON SYMBOL-23zON SYMBOL-24zON SYMBOL-25",
    "zON SYMBOL-26zON SYMBOL-27zON SYMBOL-29zON SYMBOL-30zON SYMBOL-32zON SYMBOL-36",
    "zON SYMBOL-37zON SYMBOL-38zON SYMBOL-39zON SYMBOL-40zON SYMBOL-42zON SYMBOL-43",
    "zON SYMBOL-45zON SYMBOL-47zON SYMBOL-48zON SYMBOL-49zON SYMBOL-50zON SYMBOL-51",
    "zON SYMBOL-52zON SYMBOL-53zON SYMBOL-54aCOMBINING GREEK MUSICAL TRISEMEzETRASEME",
    "yPENTASEMEaGREEK MUSICAL LEIMMA"]⟩,
  ⟨119520, ["aMAYAN NUMERAL ZEROoONEoTWOpHREEoFOURpIVEoSIXpEVENoEIGHToNINEoTENoELEVENoTWELVE",
    "pHIRTEENoFOURTEENpIFTEENoSIXTEENpEVENTEENoEIGHTEENoNINETEEN"]⟩,
  ⟨119552, ["aMONOGRAM FOR EARTHaDIGRAM FOR HEAVENLY EARTHmUMAN EARTHlEARTHLY HEAVENuUMANq",
    "aTETRAGRAM FOR CENTREoFULL CIRCLEoMIREDoBARRIERoKEEPING SMALLoCONTRARIETYoASCENT",
    "oOPPOSITIONoBRANCHING OUToDEFECTIVENESS OR DISTORTIONpIVERGENCEoYOUTHFULNESSoINCREASE",
    "oPENETRATIONoREACHoCONTACToHOLDING BACKoWAITINGoFOLLOWINGoADVANCEoRELEASEqSISTANCEoEASE",
    "oJOYoCONTENTIONoENDEAVOURoDUTIESoCHANGEoDECISIVENESSoBOLD RESOLUTIONoPACKINGoLEGION",
    "oCLOSENESSoKINSHIPoGATHERINGoSTRENGTHoPURITYoFULLNESSoRESIDENCEoLAW OR MODELoRESPONSE",
    "oGOING TO MEEToENCOUNTERSoSTOVEoGREATNESSoENLARGEMENToPATTERNoRITUALoFLIGHT",
    "oVASTNESS OR WASTINGoCONSTANCYoMEASUREoETERNITYoUNITYoDIMINISHMENToCLOSED MOUTH",
    "oGUARDEDNESSpATHERING INoMASSINGoACCUMULATIONoEMBELLISHMENToDOUBToWATCHoSINKINGoINNER",
    "oDEPARTUREpARKENINGpIMMINGoEXHAUSTIONoSEVERANCEpTOPPAGEoHARDNESSoCOMPLETIONpLOSURE",
    "oFAILUREoAGGRAVATIONoCOMPLIANCEoON THE VERGEoDIFFICULTIESoLABOURINGoFOSTERING"]⟩,
  ⟨119648, ["aCOUNTING ROD UNIT DIGIT ONEyTWOzHREEyFOURzIVEySIXzEVENyEIGHTyNINEnTENS DIGIT ONE",
    "yTWOzHREEyFOURzIVEySIXzEVENyEIGHTyNINEaIDEOGRAPHIC TALLY MARK ONExTWOyHREExFOURyIVE",
    "aTALLY MARK ONElFIVE"]⟩,
  ⟨119808, ["aMATHEMATICAL BOLD CAPITAL Az Bz Cz Dz Ez Fz Gz Hz Iz Jz Kz Lz Mz Nz Oz Pz Qz R",
    "z Sz Tz Uz Vz Wz Xz Yz ZsSMALL AyByCyDyEyFyGyHyIyJyKyLyMyNyOyPyQyRySyTyUyVyWyXyYyZ",
    "nITALIC CAPITAL AzAL BzAL CzAL DzAL EzAL FzAL GzAL HzAL IzAL JzAL KzAL LzAL MzAL NzAL O",
    "zAL PzAL QzAL RzAL SzAL TzAL UzAL VzAL WzAL XzAL YzAL ZuSMALL Az Bz Cz Dz Ez Fz G"]⟩,
  ⟨119894, ["aMATHEMATICAL ITALIC SMALL Iz Jz Kz Lz Mz Nz Oz Pz Qz Rz Sz Tz Uz Vz Wz Xz Yz Z",
    "nBOLD ITALIC CAPITAL AzCAPITAL BzCAPITAL CzCAPITAL DzCAPITAL EzCAPITAL FzCAPITAL G",
    "zCAPITAL HzCAPITAL IzCAPITAL JzCAPITAL KzCAPITAL LzCAPITAL MzCAPITAL NzCAPITAL O",
    "zCAPITAL PzCAPITAL QzCAPITAL RzCAPITAL SzCAPITAL TzCAPITAL UzCAPITAL VzCAPITAL W",
    "zCAPITAL XzCAPITAL YzCAPITAL ZzSMALL AzSMALL BzSMALL CzSMALL DzSMALL EzSMALL FzSMALL G",
    "zSMALL HzSMALL IzSMALL JzSMALL KzSMALL LzSMALL MzSMALL NzSMALL OzSMALL PzSMALL QzSMALL R",
    "zSMALL SzSMALL TzSMALL UzSMALL VzSMALL WzSMALL XzSMALL YzSMALL ZnSCRIPT CAPITAL A"]⟩,
  ⟨119966, ["aMATHEMATICAL SCRIPT CAPITAL CzAL D"]⟩,
  ⟨119970, ["aMATHEMATICAL SCRIPT CAPITAL G"]⟩,
  ⟨119973, ["aMATHEMATICAL SCRIPT CAPITAL JzAL K"]⟩,
  ⟨119977, ["aMATHEMATICAL SCRIPT CAPITAL NzAL OzAL PzAL Q"]⟩,
  ⟨119982, ["aMATHEMATICAL SCRIPT CAPITAL SzAL TzAL UzAL VzAL WzAL XzAL YzAL ZuSMALL Az Bz C",
    "z D"]⟩,
  ⟨119995, ["aMATHEMATICAL SCRIPT SMALL F"]⟩,
  ⟨119997, ["aMATHEMATICAL SCRIPT SMALL Hz Iz Jz Kz Lz Mz N"]⟩,
  ⟨120005, ["aMATHEMATICAL SCRIPT SMALL Pz Qz Rz Sz Tz Uz Vz Wz Xz Yz ZnBOLD SCRIPT CAPITAL A",
    "zCAPITAL BzCAPITAL CzCAPITAL DzCAPITAL EzCAPITAL FzCAPITAL GzCAPITAL HzCAPITAL I",
    "zCAPITAL JzCAPITAL KzCAPITAL LzCAPITAL MzCAPITAL NzCAPITAL OzCAPITAL PzCAPITAL Q",
    "zCAPITAL RzCAPITAL SzCAPITAL TzCAPITAL UzCAPITAL VzCAPITAL WzCAPITAL XzCAPITAL Y",
    "zCAPITAL ZzSMALL AzSMALL BzSMALL CzSMALL DzSMALL EzSMALL FzSMALL GzSMALL HzSMALL I",
    "zSMALL JzSMALL KzSMALL LzSMALL MzSMALL NzSMALL OzSMALL PzSMALL QzSMALL RzSMALL SzSMALL T",
    "zSMALL UzSMALL VzSMALL WzSMALL XzSMALL YzSMALL ZnFRAKTUR CAPITAL AzTAL B"]⟩,
  ⟨120071, ["aMATHEMATICAL FRAKTUR CAPITAL DzTAL EzTAL FzTAL G"]⟩,
  ⟨120077, ["aMATHEMATICAL FRAKTUR CAPITAL JzTAL KzTAL LzTAL MzTAL NzTAL OzTAL PzTAL Q"]⟩,
  ⟨120086, ["aMATHEMATICAL FRAKTUR CAPITAL SzTAL TzTAL UzTAL VzTAL WzTAL XzTAL Y"]⟩,
  ⟨120094, ["aMATHEMATICAL FRAKTUR SMALL AzL BzL CzL DzL EzL FzL GzL HzL IzL JzL KzL LzL MzL N",
    "zL OzL PzL QzL RzL SzL TzL UzL VzL WzL XzL YzL ZnDOUBLE-STRUCK CAPITAL AzK CAPITAL B"]⟩,
  ⟨120123, ["aMATHEMATICAL DOUBLE-STRUCK CAPITAL DzK CAPITAL EzK CAPITAL FzK CAPITAL G"]⟩,
  ⟨120128, ["aMATHEMATICAL DOUBLE-STRUCK CAPITAL IzK CAPITAL JzK CAPITAL KzK CAPITAL L",
    "zK CAPITAL M"]⟩,
  ⟨120134, ["aMATHEMATICAL DOUBLE-STRUCK CAPITAL O"]⟩,
  ⟨120138, ["aMATHEMATICAL DOUBLE-STRUCK CAPITAL SzK CAPITAL TzK CAPITAL UzK CAPITAL V",
    "zK CAPITAL WzK CAPITAL XzK CAPITAL Y"]⟩,
  ⟨120146, ["aMATHEMATICAL DOUBLE-STRUCK SMALL AzK SMALL BzK SMALL CzK SMALL DzK SMALL E",
    "zK SMALL FzK SMALL GzK SMALL HzK SMALL IzK SMALL JzK SMALL KzK SMALL LzK SMALL M",
    "zK SMALL NzK SMALL OzK SMALL PzK SMALL QzK SMALL RzK SMALL SzK SMALL TzK SMALL U",
    "zK SMALL VzK SMALL WzK SMALL XzK SMALL YzK SMALL ZnBOLD FRAKTUR CAPITAL Az CAPITAL B",
    "z CAPITAL Cz CAPITAL Dz CAPITAL Ez CAPITAL Fz CAPITAL Gz CAPITAL Hz CAPITAL Iz CAPITAL J",
    "z CAPITAL Kz CAPITAL Lz CAPITAL Mz CAPITAL Nz CAPITAL Oz CAPITAL Pz CAPITAL Qz CAPITAL R",
    "z CAPITAL Sz CAPITAL Tz CAPITAL Uz CAPITAL Vz CAPITAL Wz CAPITAL Xz CAPITAL Yz CAPITAL Z",
    "z SMALL Az SMALL Bz SMALL Cz SMALL Dz SMALL Ez SMALL Fz SMALL Gz SMALL Hz SMALL I",
    "z SMALL Jz SMALL Kz SMALL Lz SMALL Mz SMALL Nz SMALL Oz SMALL Pz SMALL Qz SMALL R",
    "z SMALL Sz SMALL Tz SMALL Uz SMALL Vz SMALL Wz SMALL Xz SMALL Yz SMALL Z",
    "nSANS-SERIF CAPITAL AzAPITAL BzAPITAL CzAPITAL DzAPITAL EzAPITAL FzAPITAL GzAPITAL H",
    "zAPITAL IzAPITAL JzAPITAL KzAPITAL LzAPITAL MzAPITAL NzAPITAL OzAPITAL PzAPITAL Q",
    "zAPITAL RzAPITAL SzAPITAL TzAPITAL UzAPITAL VzAPITAL WzAPITAL XzAPITAL YzAPITAL ZySMALL A",
    "zMALL BzMALL CzMALL DzMALL EzMALL FzMALL GzMALL HzMALL IzMALL JzMALL KzMALL LzMALL M",
    "zMALL NzMALL OzMALL PzMALL QzMALL RzMALL SzMALL TzMALL UzMALL VzMALL WzMALL XzMALL Y",
    "zMALL ZyBOLD CAPITAL AzOLD CAPITAL BzOLD CAPITAL CzOLD CAPITAL DzOLD CAPITAL E",
    "zOLD CAPITAL FzOLD CAPITAL GzOLD CAPITAL HzOLD CAPITAL IzOLD CAPITAL JzOLD CAPITAL K",
    "zOLD CAPITAL LzOLD CAPITAL MzOLD CAPITAL NzOLD CAPITAL OzOLD CAPITAL PzOLD CAPITAL Q",
    "zOLD CAPITAL RzOLD CAPITAL SzOLD CAPITAL TzOLD CAPITAL UzOLD CAPITAL VzOLD CAPITAL W",
    "zOLD CAPITAL XzOLD CAPITAL YzOLD CAPITAL ZzOLD SMALL AzOLD SMALL BzOLD SMALL C",
    "zOLD SMALL DzOLD SMALL EzOLD SMALL FzOLD SMALL GzOLD SMALL HzOLD SMALL IzOLD SMALL J",
    "zOLD SMALL KzOLD SMALL LzOLD SMALL MzOLD SMALL NzOLD SMALL OzOLD SMALL PzOLD SMALL Q",
    "zOLD SMALL RzOLD SMALL SzOLD SMALL TzOLD SMALL UzOLD SMALL VzOLD SMALL WzOLD SMALL X",
    "zOLD SMALL YzOLD SMALL ZyITALIC CAPITAL AzTALIC CAPITAL BzTALIC CAPITAL CzTALIC CAPITAL D",
    "zTALIC CAPITAL EzTALIC CAPITAL FzTALIC CAPITAL GzTALIC CAPITAL HzTALIC CAPITAL I",
    "zTALIC CAPITAL JzTALIC CAPITAL KzTALIC CAPITAL LzTALIC CAPITAL MzTALIC CAPITAL N",
    "zTALIC CAPITAL OzTALIC CAPITAL PzTALIC CAPITAL QzTALIC CAPITAL RzTALIC CAPITAL S",
    "zTALIC CAPITAL TzTALIC CAPITAL UzTALIC CAPITAL VzTALIC CAPITAL WzTALIC CAPITAL X",
    "zTALIC CAPITAL YzTALIC CAPITAL ZzTALIC SMALL AzTALIC SMALL BzTALIC SMALL CzTALIC SMALL D",
    "zTALIC SMALL EzTALIC SMALL FzTALIC SMALL GzTALIC SMALL HzTALIC SMALL IzTALIC SMALL J",
    "zTALIC SMALL KzTALIC SMALL LzTALIC SMALL MzTALIC SMALL NzTALIC SMALL OzTALIC SMALL P",
    "zTALIC SMALL QzTALIC SMALL RzTALIC SMALL SzTALIC SMALL TzTALIC SMALL UzTALIC SMALL V",
    "zTALIC SMALL WzTALIC SMALL XzTALIC SMALL YzTALIC SMALL ZyBOLD ITALIC CAPITAL A",
    "zOLD ITALIC CAPITAL BzOLD ITALIC CAPITAL CzOLD ITALIC CAPITAL DzOLD ITALIC CAPITAL E",
    "zOLD ITALIC CAPITAL FzOLD ITALIC CAPITAL GzOLD ITALIC CAPITAL HzOLD ITALIC CAPITAL I",
    "zOLD ITALIC CAPITAL JzOLD ITALIC CAPITAL KzOLD ITALIC CAPITAL LzOLD ITALIC CAPITAL M",
    "zOLD ITALIC CAPITAL NzOLD ITALIC CAPITAL OzOLD ITALIC CAPITAL PzOLD ITALIC CAPITAL Q",
    "zOLD ITALIC CAPITAL RzOLD ITALIC CAPITAL SzOLD ITALIC CAPITAL TzOLD ITALIC CAPITAL U",
    "zOLD ITALIC CAPITAL VzOLD ITALIC CAPITAL WzOLD ITALIC CAPITAL XzOLD ITALIC CAPITAL Y",
    "zOLD ITALIC CAPITAL ZzOLD ITALIC SMALL AzOLD ITALIC SMALL BzOLD ITALIC SMALL C",
    "zOLD ITALIC SMALL DzOLD ITALIC SMALL EzOLD ITALIC SMALL FzOLD ITALIC SMALL G",
    "zOLD ITALIC SMALL HzOLD ITALIC SMALL IzOLD ITALIC SMALL JzOLD ITALIC SMALL K",
    "zOLD ITALIC SMALL LzOLD ITALIC SMALL MzOLD ITALIC SMALL NzOLD ITALIC SMALL O",
    "zOLD ITALIC SMALL PzOLD ITALIC SMALL QzOLD ITALIC SMALL RzOLD ITALIC SMALL S",
    "zOLD ITALIC SMALL TzOLD ITALIC SMALL UzOLD ITALIC SMALL VzOLD ITALIC SMALL W",
    "zOLD ITALIC SMALL XzOLD ITALIC SMALL YzOLD ITALIC SMALL ZnMONOSPACE CAPITAL AzPITAL B",
    "zPITAL CzPITAL DzPITAL EzPITAL FzPITAL GzPITAL HzPITAL IzPITAL JzPITAL KzPITAL LzPITAL M",
    "zPITAL NzPITAL OzPITAL PzPITAL QzPITAL RzPITAL SzPITAL TzPITAL UzPITAL VzPITAL WzPITAL X",
    "zPITAL YzPITAL ZxSMALL AzALL BzALL CzALL DzALL EzALL FzALL GzALL HzALL IzALL JzALL K",
    "zALL LzALL MzALL NzALL OzALL PzALL QzALL RzALL SzALL TzALL UzALL VzALL WzALL XzALL Y",
    "zALL ZnITALIC SMALL DOTLESS Iz DOTLESS J"]⟩,
  ⟨120488, ["aMATHEMATICAL BOLD CAPITAL ALPHAz BETAz GAMMAz DELTAz EPSILONz ZETAz ETAz THETA",
    "z IOTAz KAPPAz LAMDAz MUz NUz XIz OMICRONz PIz RHOz THETA SYMBOLz SIGMAz TAUz UPSILON",
    "z PHIz CHIz PSIz OMEGAsNABLAsSMALL ALPHAyBETAyGAMMAyDELTAyEPSILONyZETAyETAyTHETAyIOTA",
    "yKAPPAyLAMDAyMUyNUyXIyOMICRONyPIyRHOyFINAL SIGMAySIGMAyTAUyUPSILONyPHIyCHIyPSIyOMEGA",
    "sPARTIAL DIFFERENTIALsEPSILON SYMBOLsTHETA SYMBOLsKAPPA SYMBOLsPHI SYMBOLsRHO SYMBOL",
    "sPI SYMBOLnITALIC CAPITAL ALPHAzAL BETAzAL GAMMAzAL DELTAzAL EPSILONzAL ZETAzAL ETA",
    "zAL THETAzAL IOTAzAL KAPPAzAL LAMDAzAL MUzAL NUzAL XIzAL OMICRONzAL PIzAL RHO",
    "zAL THETA SYMBOLzAL SIGMAzAL TAUzAL UPSILONzAL PHIzAL CHIzAL PSIzAL OMEGAuNABLA",
    "uSMALL ALPHAz BETAz GAMMAz DELTAz EPSILONz ZETAz ETAz THETAz IOTAz KAPPAz LAMDAz MUz NU",
    "z XIz OMICRONz PIz RHOz FINAL SIGMAz SIGMAz TAUz UPSILONz PHIz CHIz PSIz OMEGA",
    "uPARTIAL DIFFERENTIALuEPSILON SYMBOLuTHETA SYMBOLuKAPPA SYMBOLuPHI SYMBOLuRHO SYMBOL",
    "uPI SYMBOLnBOLD ITALIC CAPITAL ALPHAzCAPITAL BETAzCAPITAL GAMMAzCAPITAL DELTA",
    "zCAPITAL EPSILONzCAPITAL ZETAzCAPITAL ETAzCAPITAL THETAzCAPITAL IOTAzCAPITAL KAPPA",
    "zCAPITAL LAMDAzCAPITAL MUzCAPITAL NUzCAPITAL XIzCAPITAL OMICRONzCAPITAL PIzCAPITAL RHO",
    "zCAPITAL THETA SYMBOLzCAPITAL SIGMAzCAPITAL TAUzCAPITAL UPSILONzCAPITAL PHIzCAPITAL CHI",
    "zCAPITAL PSIzCAPITAL OMEGAzNABLAzSMALL ALPHAzSMALL BETAzSMALL GAMMAzSMALL DELTA",
    "zSMALL EPSILONzSMALL ZETAzSMALL ETAzSMALL THETAzSMALL IOTAzSMALL KAPPAzSMALL LAMDA",
    "zSMALL MUzSMALL NUzSMALL XIzSMALL OMICRONzSMALL PIzSMALL RHOzSMALL FINAL SIGMA",
    "zSMALL SIGMAzSMALL TAUzSMALL UPSILONzSMALL PHIzSMALL CHIzSMALL PSIzSMALL OMEGA",
    "zPARTIAL DIFFERENTIALzEPSILON SYMBOLzTHETA SYMBOLzKAPPA SYMBOLzPHI SYMBOLzRHO SYMBOL",
    "zPI SYMBOLnSANS-SERIF BOLD CAPITAL ALPHAzOLD CAPITAL BETAzOLD CAPITAL GAMMA",
    "zOLD CAPITAL DELTAzOLD CAPITAL EPSILONzOLD CAPITAL ZETAzOLD CAPITAL ETAzOLD CAPITAL THETA",
    "zOLD CAPITAL IOTAzOLD CAPITAL KAPPAzOLD CAPITAL LAMDAzOLD CAPITAL MUzOLD CAPITAL NU",
    "zOLD CAPITAL XIzOLD CAPITAL OMICRONzOLD CAPITAL PIzOLD CAPITAL RHO",
    "zOLD CAPITAL THETA SYMBOLzOLD CAPITAL SIGMAzOLD CAPITAL TAUzOLD CAPITAL UPSILON",
    "zOLD CAPITAL PHIzOLD CAPITAL CHIzOLD CAPITAL PSIzOLD CAPITAL OMEGAzOLD NABLA",
    "zOLD SMALL ALPHAzOLD SMALL BETAzOLD SMALL GAMMAzOLD SMALL DELTAzOLD SMALL EPSILON",
    "zOLD SMALL ZETAzOLD SMALL ETAzOLD SMALL THETAzOLD SMALL IOTAzOLD SMALL KAPPA",
    "zOLD SMALL LAMDAzOLD SMALL MUzOLD SMALL NUzOLD SMALL XIzOLD SMALL OMICRONzOLD SMALL PI",
    "zOLD SMALL RHOzOLD SMALL FINAL SIGMAzOLD SMALL SIGMAzOLD SMALL TAUzOLD SMALL UPSILON",
    "zOLD SMALL PHIzOLD SMALL CHIzOLD SMALL PSIzOLD SMALL OMEGAzOLD PARTIAL DIFFERENTIAL",
    "zOLD EPSILON SYMBOLzOLD THETA SYMBOLzOLD KAPPA SYMBOLzOLD PHI SYMBOLzOLD RHO SYMBOL",
    "zOLD PI SYMBOLzOLD ITALIC CAPITAL ALPHAzOLD ITALIC CAPITAL BETAzOLD ITALIC CAPITAL GAMMA",
    "zOLD ITALIC CAPITAL DELTAzOLD ITALIC CAPITAL EPSILONzOLD ITALIC CAPITAL ZETA",
    "zOLD ITALIC CAPITAL ETAzOLD ITALIC CAPITAL THETAzOLD ITALIC CAPITAL IOTA",
    "zOLD ITALIC CAPITAL KAPPAzOLD ITALIC CAPITAL LAMDAzOLD ITALIC CAPITAL MU",
    "zOLD ITALIC CAPITAL NUzOLD ITALIC CAPITAL XIzOLD ITALIC CAPITAL OMICRON",
    "zOLD ITALIC CAPITAL PIzOLD ITALIC CAPITAL RHOzOLD ITALIC CAPITAL THETA SYMBOL",
    "zOLD ITALIC CAPITAL SIGMAzOLD ITALIC CAPITAL TAUzOLD ITALIC CAPITAL UPSILON",
    "zOLD ITALIC CAPITAL PHIzOLD ITALIC CAPITAL CHIzOLD ITALIC CAPITAL PSI",
    "zOLD ITALIC CAPITAL OMEGAzOLD ITALIC NABLAzOLD ITALIC SMALL ALPHAzOLD ITALIC SMALL BETA",
    "zOLD ITALIC SMALL GAMMAzOLD ITALIC SMALL DELTAzOLD ITALIC SMALL EPSILON",
    "zOLD ITALIC SMALL ZETAzOLD ITALIC SMALL ETAzOLD ITALIC SMALL THETAzOLD ITALIC SMALL IOTA",
    "zOLD ITALIC SMALL KAPPAzOLD ITALIC SMALL LAMDAzOLD ITALIC SMALL MUzOLD ITALIC SMALL NU",
    "zOLD ITALIC SMALL XIzOLD ITALIC SMALL OMICRONzOLD ITALIC SMALL PIzOLD ITALIC SMALL RHO",
    "zOLD ITALIC SMALL FINAL SIGMAzOLD ITALIC SMALL SIGMAzOLD ITALIC SMALL TAU",
    "zOLD ITALIC SMALL UPSILONzOLD ITALIC SMALL PHIzOLD ITALIC SMALL CHIzOLD ITALIC SMALL PSI",
    "zOLD ITALIC SMALL OMEGAzOLD ITALIC PARTIAL DIFFERENTIALzOLD ITALIC EPSILON SYMBOL",
    "zOLD ITALIC THETA SYMBOLzOLD ITALIC KAPPA SYMBOLzOLD ITALIC PHI SYMBOL",
    "zOLD ITALIC RHO SYMBOLzOLD ITALIC PI SYMBOLnBOLD CAPITAL DIGAMMAsSMALL DIGAMMA"]⟩,
  ⟨120782, ["aMATHEMATICAL BOLD DIGIT ZEROyONEyTWOzHREEyFOURzIVEySIXzEVENyEIGHTyNINE",
    "nDOUBLE-STRUCK DIGIT ZEROzK DIGIT ONEzK DIGIT TWOzK DIGIT THREEzK DIGIT FOURzK DIGIT FIVE",
    "zK DIGIT SIXzK DIGIT SEVENzK DIGIT EIGHTzK DIGIT NINEnSANS-SERIF DIGIT ZEROzIGIT ONE",
    "zIGIT TWOzIGIT THREEzIGIT FOURzIGIT FIVEzIGIT SIXzIGIT SEVENzIGIT EIGHTzIGIT NINE",
    "yBOLD DIGIT ZEROzOLD DIGIT ONEzOLD DIGIT TWOzOLD DIGIT THREEzOLD DIGIT FOUR",
    "zOLD DIGIT FIVEzOLD DIGIT SIXzOLD DIGIT SEVENzOLD DIGIT EIGHTzOLD DIGIT NINE",
    "nMONOSPACE DIGIT ZEROzGIT ONEzGIT TWOzGIT THREEzGIT FOURzGIT FIVEzGIT SIXzGIT SEVEN",
    "zGIT EIGHTzGIT NINEaSIGNWRITING HAND-FIST INDEXrCIRCLE INDEXsUP INDEXrOVAL INDEX",
    "rHINGE INDEXrANGLE INDEXrFIST INDEX BENTrCIRCLE INDEX BENTrFIST THUMB UNDER INDEX BENT",
    "wINDEX RAISED KNUCKLEzEX CUPPEDzEX HINGEDzEX HINGED LOWrCIRCLE INDEX HINGE",
    "rFIST INDEX MIDDLErCIRCLE INDEX MIDDLErFIST INDEX MIDDLE BENTzEX MIDDLE RAISED KNUCKLES",
    "zEX MIDDLE HINGEDzEX UP MIDDLE HINGEDzEX HINGED MIDDLE UPzEX MIDDLE CONJOINED",
    "zEX MIDDLE CONJOINED INDEX BENTzEX MIDDLE CONJOINED MIDDLE BENT",
    "zEX MIDDLE CONJOINED CUPPEDzEX MIDDLE CONJOINED HINGEDzEX MIDDLE CROSSED",
    "rCIRCLE INDEX MIDDLE CROSSEDrFIST MIDDLE BENT OVER INDEXwINDEX BENT OVER MIDDLE",
    "zEX MIDDLE THUMBrCIRCLE INDEX MIDDLE THUMBrFIST INDEX MIDDLE STRAIGHT THUMB BENT",
    "zEX MIDDLE BENT THUMB STRAIGHTzEX MIDDLE THUMB BENTzEX MIDDLE HINGED SPREAD THUMB SIDE",
    "zEX UP MIDDLE HINGED THUMB SIDEzEX UP MIDDLE HINGED THUMB CONJOINED",
    "zEX HINGED MIDDLE UP THUMB SIDEzEX MIDDLE UP SPREAD THUMB FORWARDzEX MIDDLE THUMB CUPPED",
    "zEX MIDDLE THUMB CIRCLEDzEX MIDDLE THUMB HOOKEDzEX MIDDLE THUMB HINGED",
    "wTHUMB BETWEEN INDEX MIDDLE STRAIGHTwINDEX MIDDLE CONJOINED THUMB SIDE",
    "zEX MIDDLE CONJOINED THUMB SIDE CONJOINEDzEX MIDDLE CONJOINED THUMB SIDE BENT",
    "wMIDDLE THUMB HOOKED INDEX UPwINDEX THUMB HOOKED MIDDLE UP",
    "zEX MIDDLE CONJOINED HINGED THUMB SIDEzEX MIDDLE CROSSED THUMB SIDE",
    "zEX MIDDLE CONJOINED THUMB FORWARDzEX MIDDLE CONJOINED CUPPED THUMB FORWARD",
    "wMIDDLE THUMB CUPPED INDEX UPwINDEX THUMB CUPPED MIDDLE UPwMIDDLE THUMB CIRCLED INDEX UP",
    "zDLE THUMB CIRCLED INDEX HINGEDwINDEX THUMB ANGLED OUT MIDDLE UP",
    "zEX THUMB ANGLED IN MIDDLE UPzEX THUMB CIRCLED MIDDLE UPzEX MIDDLE THUMB CONJOINED HINGED",
    "zEX MIDDLE THUMB ANGLED OUTzEX MIDDLE THUMB ANGLEDwMIDDLE THUMB ANGLED OUT INDEX UP",
    "zDLE THUMB ANGLED OUT INDEX CROSSEDzDLE THUMB ANGLED INDEX UP",
    "wINDEX THUMB HOOKED MIDDLE HINGEDsLAT FOUR FINGERSzR FINGERS BENTzR FINGERS HINGED",
    "zR FINGERS CONJOINEDzR FINGERS CONJOINED SPLITrCLAW FOUR FINGERS CONJOINED",
    "rFIST FOUR FINGERS CONJOINED BENTrHINGE FOUR FINGERS CONJOINEDrFLAT FIVE FINGERS SPREAD",
    "wHEEL FIVE FINGERS SPREADwFIVE FINGERS SPREAD FOUR BENT",
    "wHEEL FIVE FINGERS SPREAD FOUR BENTwFIVE FINGERS SPREAD BENT",
    "wHEEL FIVE FINGERS SPREAD BENTwFIVE FINGERS SPREAD THUMB FORWARDrCUP FIVE FINGERS SPREAD",
    "z FINGERS SPREAD OPENrHINGE FIVE FINGERS SPREAD OPENrOVAL FIVE FINGERS SPREAD",
    "rFLAT FIVE FINGERS SPREAD HINGEDzE FINGERS SPREAD HINGED THUMB SIDE",
    "zE FINGERS SPREAD HINGED NO THUMBvv BETWEEN PALM FACINGSwHEELwTHUMB SIDEwHEEL THUMB SIDE",
    "wTHUMB BENTzMB FORWARDwSPLIT INDEX THUMB SIDEzIT CENTREzIT CENTRE THUMB SIDE",
    "zIT CENTRE THUMB SIDE BENTzIT LITTLErCLAWv THUMB SIDEwNO THUMBwTHUMB FORWARD",
    "rHOOK CURLICUEvrCUP OPENuu OPEN THUMB SIDEvTHUMB SIDEvOPEN NO THUMBvNO THUMB",
    "vOPEN THUMB FORWARDvTHUMB FORWARDtRLICUE OPENzsIRCLErOVALv THUMB SIDEwNO THUMB",
    "wTHUMB FORWARDrHINGE OPENzEN THUMB FORWARDww SMALLxOPEN THUMB SIDExTHUMB SIDE",
    "xOPEN NO THUMBxNO THUMBxTHUMB SIDE TOUCHING INDEXzUMB BETWEEN MIDDLE RINGrANGLE",
    "rFIST INDEX MIDDLE RINGrCIRCLE INDEX MIDDLE RINGrHINGE INDEX MIDDLE RING",
    "rANGLE INDEX MIDDLE RINGrHINGE LITTLErFIST INDEX MIDDLE RING BENT",
    "zEX MIDDLE RING CONJOINEDrHINGE INDEX MIDDLE RING CONJOINEDrFIST LITTLE DOWN",
    "zTLE DOWN RIPPLE STRAIGHTzTLE DOWN RIPPLE CURVEDzTLE DOWN OTHERS CIRCLEDzTLE UP",
    "wTHUMB UNDER LITTLE UPrCIRCLE LITTLE UPrOVAL LITTLE UPrANGLE LITTLE UP",
    "rFIST LITTLE RAISED KNUCKLEzTLE BENTzTLE TOUCHES THUMBzTLE THUMBrHINGE LITTLE THUMB",
    "rFIST LITTLE INDEX THUMBrHINGE LITTLE INDEX THUMB",
    "rANGLE LITTLE INDEX THUMB INDEX THUMB OUTzTTLE INDEX THUMB INDEX THUMBrFIST LITTLE INDEX",
    "rCIRCLE LITTLE INDEXrHINGE LITTLE INDEXrANGLE LITTLE INDEXrFIST INDEX MIDDLE LITTLE",
    "rCIRCLE INDEX MIDDLE LITTLErHINGE INDEX MIDDLE LITTLExRINGrANGLE INDEX MIDDLE LITTLE",
    "rFIST INDEX MIDDLE CROSS LITTLErCIRCLE INDEX MIDDLE CROSS LITTLErFIST RING DOWN",
    "rHINGE RING DOWN INDEX THUMB HOOK MIDDLErANGLE RING DOWN MIDDLE THUMB INDEX CROSS",
    "rFIST RING UPzG RAISED KNUCKLEzG LITTLErCIRCLE RING LITTLErOVAL RING LITTLE",
    "rANGLE RING LITTLErFIST RING MIDDLEzG MIDDLE CONJOINEDzG MIDDLE RAISED KNUCKLESzG INDEX",
    "zG THUMBrHOOK RING THUMBrFIST INDEX RING LITTLErCIRCLE INDEX RING LITTLE",
    "sURLICUE INDEX RING LITTLE ONrHOOK INDEX RING LITTLE OUTzEX RING LITTLE IN",
    "zEX RING LITTLE UNDERrCUP INDEX RING LITTLErHINGE INDEX RING LITTLE",
    "rANGLE INDEX RING LITTLE OUTzDEX RING LITTLErFIST MIDDLE DOWNrHINGE MIDDLErFIST MIDDLE UP",
    "rCIRCLE MIDDLE UPrFIST MIDDLE RAISED KNUCKLEzDLE UP THUMB SIDErHOOK MIDDLE THUMB",
    "rFIST MIDDLE THUMB LITTLEzDLE LITTLEzDLE RING LITTLErCIRCLE MIDDLE RING LITTLE",
    "sURLICUE MIDDLE RING LITTLE ONtP MIDDLE RING LITTLErHINGE MIDDLE RING LITTLE",
    "rANGLE MIDDLE RING LITTLE OUTzDDLE RING LITTLE INzDDLE RING LITTLE",
    "rCIRCLE MIDDLE RING LITTLE BENTsLAW MIDDLE RING LITTLE CONJOINED",
    "zDLE RING LITTLE CONJOINED SIDErHOOK MIDDLE RING LITTLE CONJOINED OUT",
    "zDLE RING LITTLE CONJOINED INzDLE RING LITTLE CONJOINEDsINGE INDEX HINGED",
    "rFIST INDEX THUMB SIDErHINGE INDEX THUMB SIDErFIST INDEX THUMB SIDE THUMB DIAGONAL",
    "zEX THUMB SIDE THUMB CONJOINEDzEX THUMB SIDE THUMB BENTzEX THUMB SIDE INDEX BENT",
    "zEX THUMB SIDE BOTH BENTzEX THUMB SIDE INDEX HINGEzEX THUMB FORWARD INDEX STRAIGHT",
    "zEX THUMB FORWARD INDEX BENTzEX THUMB HOOKzEX THUMB CURLICUEzEX THUMB CURVE THUMB INSIDE",
    "rCLAW INDEX THUMB CURVE THUMB INSIDErFIST INDEX THUMB CURVE THUMB UNDERzEX THUMB CIRCLE",
    "rCUP INDEX THUMBzX THUMB OPENrHINGE INDEX THUMB OPENzDEX THUMB LARGEzDEX THUMB",
    "zDEX THUMB SMALLrANGLE INDEX THUMB OUTzDEX THUMB INzDEX THUMBrFIST THUMBzMB HEEL",
    "zMB SIDE DIAGONALzMB SIDE CONJOINEDzMB SIDE BENTzMB FORWARDzMB BETWEEN INDEX MIDDLE",
    "zMB BETWEEN MIDDLE RINGzMB BETWEEN RING LITTLEzMB UNDER TWO FINGERSzMB OVER TWO FINGERS",
    "zMB UNDER THREE FINGERSzMB UNDER FOUR FINGERSzMB OVER FOUR RAISED KNUCKLESvv HEEL",
    "mTOUCH SINGLEsMULTIPLEsBETWEENmGRASP SINGLEsMULTIPLEsBETWEENmSTRIKE SINGLEtMULTIPLE",
    "tBETWEENmBRUSH SINGLEsMULTIPLEsBETWEENmRUB SINGLEqMULTIPLEqBETWEENmSURFACE SYMBOLS",
    "uBETWEENnQUEEZE LARGE SINGLEuSMALL SINGLEuLARGE MULTIPLEuSMALL MULTIPLEvEQUENTIAL",
    "mFLICK LARGE SINGLEsSMALL SINGLEsLARGE MULTIPLEsSMALL MULTIPLEtEQUENTIAL",
    "mSQUEEZE FLICK ALTERNATINGmMOVEMENT-HINGE UP DOWN LARGEzE UP DOWN SMALLzE UP SEQUENTIAL",
    "zE DOWN SEQUENTIALzE UP DOWN ALTERNATING LARGEzE UP DOWN ALTERNATING SMALL",
    "zE SIDE TO SIDE SCISSORSvWALLPLANE FINGER CONTACTvFLOORPLANE FINGER CONTACT",
    "vWALLPLANE SINGLE STRAIGHT SMALLzPLANE SINGLE STRAIGHT MEDIUMzPLANE SINGLE STRAIGHT LARGE",
    "zPLANE SINGLE STRAIGHT LARGESTzPLANE SINGLE WRIST FLEXzPLANE DOUBLE STRAIGHT",
    "zPLANE DOUBLE WRIST FLEXzPLANE DOUBLE ALTERNATINGzPLANE DOUBLE ALTERNATING WRIST FLEX",
    "zPLANE CROSSzPLANE TRIPLE STRAIGHT MOVEMENTzPLANE TRIPLE WRIST FLEX",
    "zPLANE TRIPLE ALTERNATINGzPLANE TRIPLE ALTERNATING WRIST FLEXzPLANE BEND SMALL",
    "zPLANE BEND MEDIUMzPLANE BEND LARGEzPLANE CORNER SMALLzPLANE CORNER MEDIUM",
    "zPLANE CORNER LARGEzPLANE CORNER ROTATIONzPLANE CHECK SMALLzPLANE CHECK MEDIUM",
    "zPLANE CHECK LARGEzPLANE BOX SMALLzPLANE BOX MEDIUMzPLANE BOX LARGEzPLANE ZIGZAG SMALL",
    "zPLANE ZIGZAG MEDIUMzPLANE ZIGZAG LARGEzPLANE PEAKS SMALLzPLANE PEAKS MEDIUM",
    "zPLANE PEAKS LARGEmTRAVEL-WALLPLANE ROTATION-WALLPLANE SINGLE",
    "zANE ROTATION-WALLPLANE DOUBLEzANE ROTATION-WALLPLANE ALTERNATING",
    "zANE ROTATION-FLOORPLANE SINGLEzANE ROTATION-FLOORPLANE DOUBLE",
    "zANE ROTATION-FLOORPLANE ALTERNATINGzANE SHAKINGzANE ARM SPIRAL SINGLE",
    "zANE ARM SPIRAL DOUBLEzANE ARM SPIRAL TRIPLEmMOVEMENT-DIAGONAL AWAY SMALL",
    "zONAL AWAY MEDIUMzONAL AWAY LARGEzONAL AWAY LARGESTzONAL TOWARDS SMALL",
    "zONAL TOWARDS MEDIUMzONAL TOWARDS LARGEzONAL TOWARDS LARGESTzONAL BETWEEN AWAY SMALL",
    "zONAL BETWEEN AWAY MEDIUMzONAL BETWEEN AWAY LARGEzONAL BETWEEN AWAY LARGEST",
    "zONAL BETWEEN TOWARDS SMALLzONAL BETWEEN TOWARDS MEDIUMzONAL BETWEEN TOWARDS LARGE",
    "zONAL BETWEEN TOWARDS LARGESTvFLOORPLANE SINGLE STRAIGHT SMALL",
    "zRPLANE SINGLE STRAIGHT MEDIUMzRPLANE SINGLE STRAIGHT LARGE",
    "zRPLANE SINGLE STRAIGHT LARGESTzRPLANE SINGLE WRIST FLEXzRPLANE DOUBLE STRAIGHT",
    "zRPLANE DOUBLE WRIST FLEXzRPLANE DOUBLE ALTERNATINGzRPLANE DOUBLE ALTERNATING WRIST FLEX",
    "zRPLANE CROSSzRPLANE TRIPLE STRAIGHT MOVEMENTzRPLANE TRIPLE WRIST FLEX",
    "zRPLANE TRIPLE ALTERNATING MOVEMENTzRPLANE TRIPLE ALTERNATING WRIST FLEXzRPLANE BEND",
    "zRPLANE CORNER SMALLzRPLANE CORNER MEDIUMzRPLANE CORNER LARGEzRPLANE CHECK",
    "zRPLANE BOX SMALLzRPLANE BOX MEDIUMzRPLANE BOX LARGEzRPLANE ZIGZAG SMALL",
    "zRPLANE ZIGZAG MEDIUMzRPLANE ZIGZAG LARGEzRPLANE PEAKS SMALLzRPLANE PEAKS MEDIUM",
    "zRPLANE PEAKS LARGEmTRAVEL-FLOORPLANE ROTATION-FLOORPLANE SINGLE",
    "zLANE ROTATION-FLOORPLANE DOUBLEzLANE ROTATION-FLOORPLANE ALTERNATING",
    "zLANE ROTATION-WALLPLANE SINGLEzLANE ROTATION-WALLPLANE DOUBLE",
    "zLANE ROTATION-WALLPLANE ALTERNATINGzLANE SHAKINGmMOVEMENT-WALLPLANE CURVE QUARTER SMALL",
    "zPLANE CURVE QUARTER MEDIUMzPLANE CURVE QUARTER LARGEzPLANE CURVE QUARTER LARGEST",
    "zPLANE CURVE HALF-CIRCLE SMALLzPLANE CURVE HALF-CIRCLE MEDIUM",
    "zPLANE CURVE HALF-CIRCLE LARGEzPLANE CURVE HALF-CIRCLE LARGEST",
    "zPLANE CURVE THREE-QUARTER CIRCLE SMALLzPLANE CURVE THREE-QUARTER CIRCLE MEDIUM",
    "zPLANE HUMP SMALLzPLANE HUMP MEDIUMzPLANE HUMP LARGEzPLANE LOOP SMALLzPLANE LOOP MEDIUM",
    "zPLANE LOOP LARGEzPLANE LOOP SMALL DOUBLEzPLANE WAVE CURVE DOUBLE SMALL",
    "zPLANE WAVE CURVE DOUBLE MEDIUMzPLANE WAVE CURVE DOUBLE LARGE",
    "zPLANE WAVE CURVE TRIPLE SMALLzPLANE WAVE CURVE TRIPLE MEDIUM",
    "zPLANE WAVE CURVE TRIPLE LARGEzPLANE CURVE THEN STRAIGHTzPLANE CURVED CROSS SMALL",
    "zPLANE CURVED CROSS MEDIUMmROTATION-WALLPLANE SINGLEzPLANE DOUBLEzPLANE ALTERNATE",
    "mMOVEMENT-WALLPLANE SHAKINGzPLANE CURVE HITTING FRONT WALLzPLANE HUMP HITTING FRONT WALL",
    "zPLANE LOOP HITTING FRONT WALLzPLANE WAVE HITTING FRONT WALL",
    "mROTATION-WALLPLANE SINGLE HITTING FRONT WALLzPLANE DOUBLE HITTING FRONT WALL",
    "zPLANE ALTERNATING HITTING FRONT WALLmMOVEMENT-WALLPLANE CURVE HITTING CHEST",
    "zPLANE HUMP HITTING CHESTzPLANE LOOP HITTING CHESTzPLANE WAVE HITTING CHEST",
    "mROTATION-WALLPLANE SINGLE HITTING CHESTzPLANE DOUBLE HITTING CHEST",
    "zPLANE ALTERNATING HITTING CHESTmMOVEMENT-WALLPLANE WAVE DIAGONAL PATH SMALL",
    "zPLANE WAVE DIAGONAL PATH MEDIUMzPLANE WAVE DIAGONAL PATH LARGE",
    "vFLOORPLANE CURVE HITTING CEILING SMALLzRPLANE CURVE HITTING CEILING LARGE",
    "zRPLANE HUMP HITTING CEILING SMALL DOUBLEzRPLANE HUMP HITTING CEILING LARGE DOUBLE",
    "zRPLANE HUMP HITTING CEILING SMALL TRIPLEzRPLANE HUMP HITTING CEILING LARGE TRIPLE",
    "zRPLANE LOOP HITTING CEILING SMALL SINGLEzRPLANE LOOP HITTING CEILING LARGE SINGLE",
    "zRPLANE LOOP HITTING CEILING SMALL DOUBLEzRPLANE LOOP HITTING CEILING LARGE DOUBLE",
    "zRPLANE WAVE HITTING CEILING SMALLzRPLANE WAVE HITTING CEILING LARGE",
    "mROTATION-FLOORPLANE SINGLE HITTING CEILINGzRPLANE DOUBLE HITTING CEILING",
    "zRPLANE ALTERNATING HITTING CEILINGmMOVEMENT-FLOORPLANE CURVE HITTING FLOOR SMALL",
    "zRPLANE CURVE HITTING FLOOR LARGEzRPLANE HUMP HITTING FLOOR SMALL DOUBLE",
    "zRPLANE HUMP HITTING FLOOR LARGE DOUBLEzRPLANE HUMP HITTING FLOOR TRIPLE SMALL TRIPLE",
    "zRPLANE HUMP HITTING FLOOR TRIPLE LARGE TRIPLEzRPLANE LOOP HITTING FLOOR SMALL SINGLE",
    "zRPLANE LOOP HITTING FLOOR LARGE SINGLEzRPLANE LOOP HITTING FLOOR SMALL DOUBLE",
    "zRPLANE LOOP HITTING FLOOR LARGE DOUBLEzRPLANE WAVE HITTING FLOOR SMALL",
    "zRPLANE WAVE HITTING FLOOR LARGEmROTATION-FLOORPLANE SINGLE HITTING FLOOR",
    "zRPLANE DOUBLE HITTING FLOORzRPLANE ALTERNATING HITTING FLOOR",
    "mMOVEMENT-FLOORPLANE CURVE SMALLzRPLANE CURVE MEDIUMzRPLANE CURVE LARGE",
    "zRPLANE CURVE LARGESTzRPLANE CURVE COMBINEDzRPLANE HUMP SMALLzRPLANE LOOP SMALL",
    "zRPLANE WAVE SNAKEzRPLANE WAVE SMALLzRPLANE WAVE LARGEmROTATION-FLOORPLANE SINGLE",
    "zRPLANE DOUBLEzRPLANE ALTERNATINGmMOVEMENT-FLOORPLANE SHAKING PARALLEL",
    "vWALLPLANE ARM CIRCLE SMALL SINGLEzPLANE ARM CIRCLE MEDIUM SINGLE",
    "zPLANE ARM CIRCLE SMALL DOUBLEzPLANE ARM CIRCLE MEDIUM DOUBLE",
    "vFLOORPLANE ARM CIRCLE HITTING WALL SMALL SINGLE",
    "zRPLANE ARM CIRCLE HITTING WALL MEDIUM SINGLEzRPLANE ARM CIRCLE HITTING WALL LARGE SINGLE",
    "zRPLANE ARM CIRCLE HITTING WALL SMALL DOUBLEzRPLANE ARM CIRCLE HITTING WALL MEDIUM DOUBLE",
    "zRPLANE ARM CIRCLE HITTING WALL LARGE DOUBLEvWALLPLANE WRIST CIRCLE FRONT SINGLE",
    "zPLANE WRIST CIRCLE FRONT DOUBLEvFLOORPLANE WRIST CIRCLE HITTING WALL SINGLE",
    "zRPLANE WRIST CIRCLE HITTING WALL DOUBLEvWALLPLANE FINGER CIRCLES SINGLE",
    "zPLANE FINGER CIRCLES DOUBLEvFLOORPLANE FINGER CIRCLES HITTING WALL SINGLE",
    "zRPLANE FINGER CIRCLES HITTING WALL DOUBLEmDYNAMIC ARROWHEAD SMALLzHEAD LARGEuFASTuSLOW",
    "uTENSEuRELAXEDuSIMULTANEOUSzTANEOUS ALTERNATINGuEVERY OTHER TIMEuGRADUALmHEADq RIM",
    "rMOVEMENT-WALLPLANE STRAIGHTz-WALLPLANE TILTz-FLOORPLANE STRAIGHTz-WALLPLANE CURVE",
    "z-FLOORPLANE CURVEz CIRCLEmFACE DIRECTION POSITION NOSE FORWARD TILTING",
    "zN POSITION NOSE UP OR DOWNzN POSITION NOSE UP OR DOWN TILTINGmEYEBROWS STRAIGHT UP",
    "zIGHT NEUTRALzIGHT DOWNmDREAMY EYEBROWS NEUTRAL DOWNzWS DOWN NEUTRALzWS UP NEUTRAL",
    "zWS NEUTRAL UPmFOREHEAD NEUTRALvCONTACTvWRINKLEDmEYES OPENrSQUEEZEDrCLOSEDp BLINK SINGLE",
    "wMULTIPLEpS HALF OPENrWIDE OPENrHALF CLOSEDrWIDENING MOVEMENTp WINKpLASHES UPwDOWN",
    "wFLUTTERINGpGAZE-WALLPLANE STRAIGHTzLANE STRAIGHT DOUBLEzLANE STRAIGHT ALTERNATING",
    "uFLOORPLANE STRAIGHTzPLANE STRAIGHT DOUBLEzPLANE STRAIGHT ALTERNATINGuWALLPLANE CURVED",
    "uFLOORPLANE CURVEDuWALLPLANE CIRCLINGmCHEEKS PUFFEDtNEUTRALtSUCKEDmTENSE CHEEKS HIGH",
    "zMIDDLEzLOWmEARSmNOSE NEUTRALrCONTACTrWRINKLESsIGGLESmAIR BLOWING OUTqSUCKING IN",
    "qBLOW SMALL ROTATIONSqSUCK SMALL ROTATIONSmBREATH INHALEtEXHALEmMOUTH CLOSED NEUTRAL",
    "zFORWARDzCONTACTsSMILEx WRINKLEDyOPENsFROWNx WRINKLEDyOPENsOPEN CIRCLExFORWARDxWRINKLED",
    "xOVALzAL WRINKLEDzAL YAWNxRECTANGLEzCTANGLE WRINKLEDzCTANGLE YAWNsKISSw FORWARDxWRINKLED",
    "sTENSEx FORWARDySUCKEDmLIPS PRESSED TOGETHERp LOWER OVER UPPERqUPPER OVER LOWER",
    "mMOUTH CORNERSsWRINKLES SINGLEzS DOUBLEmTONGUE STICKING OUT FARtLICKING LIPS",
    "tTIP BETWEEN LIPSxTOUCHING INSIDE MOUTHtINSIDE MOUTH RELAXEDtMOVES AGAINST CHEEK",
    "tCENTRE STICKING OUTz INSIDE MOUTHnEETHr MOVEMENTsON TONGUEzUE MOVEMENTvLIPSz MOVEMENT",
    "sBITE LIPSmMOVEMENT-WALLPLANE JAWvFLOORPLANE JAWmNECKmHAIRmEXCITEMENTmSHOULDER HIP SPINE",
    "zPOSITIONSmWALLPLANE SHOULDER HIP MOVEmFLOORPLANE SHOULDER HIP MOVE",
    "mSHOULDER TILTING FROM WAISTmTORSO-WALLPLANE STRAIGHT STRETCHzNE CURVED BEND",
    "sFLOORPLANE TWISTINGmUPPER BODY TILTING FROM HIP JOINTSmLIMB COMBINATIONrLENGTH-1y2y3y4y5",
    "y6y7mFINGERmLOCATION-WALLPLANE SPACEvFLOORPLANE SPACEu HEIGHTvWIDTHvDEPTHvHEAD NECKvTORSO",
    "vLIMBS DIGITSmCOMMAmFULL STOPmSEMICOLONmCOLONmPARENTHESIS"]⟩,
  ⟨121499, ["aSIGNWRITING FILL MODIFIER-2z-3z-4z-5z-6"]⟩,
  ⟨121505, ["aSIGNWRITING ROTATION MODIFIER-2zFIER-3zFIER-4zFIER-5zFIER-6zFIER-7zFIER-8zFIER-9",
    "zFIER-10zFIER-11zFIER-12zFIER-13zFIER-14zFIER-15zFIER-16"]⟩,
  ⟨122624, ["aLATIN SMALL LETTER FENG DIGRAPH WITH TRILLtREVERSED SCRIPT G",
    "gLETTER SMALL CAPITAL TURNED GgSMALL LETTER REVERSED KgLETTER SMALL CAPITAL L WITH BELT",
    "gSMALL LETTER LEZH WITH RETROFLEX HOOKtTURNED Y WITH BELTtREVERSED ENG",
    "tTURNED R WITH LONG LEG AND RETROFLEX HOOKu WITH HOOK AND RETROFLEX HOOK",
    "gLETTER RETROFLEX CLICK WITH RETROFLEX HOOKgSMALL LETTER ESH WITH DOUBLE BAR",
    "zTH DOUBLE BAR AND CURLtTURNED T WITH CURLgLETTER INVERTED GLOTTAL STOP WITH CURL",
    "nSTRETCHED C WITH CURLoMALL CAPITAL TURNED KgSMALL LETTER L WITH FISHHOOK",
    "tDEZH DIGRAPH WITH PALATAL HOOKtL WITH BELT AND PALATAL HOOKtENG WITH PALATAL HOOK",
    "tTURNED R WITH PALATAL HOOKtR WITH FISHHOOK AND PALATAL HOOK",
    "tTESH DIGRAPH WITH PALATAL HOOKtEZH WITH PALATAL HOOKtDEZH DIGRAPH WITH RETROFLEX HOOK",
    "tI WITH STROKE AND RETROFLEX HOOKtO WITH RETROFLEX HOOKtTESH DIGRAPH WITH RETROFLEX HOOK",
    "tC WITH RETROFLEX HOOKtS WITH CURL"]⟩,
  ⟨122880, ["aCOMBINING GLAGOLITIC LETTER AZUzER BUKYzER VEDEzER GLAGOLIzER DOBROzER YESTU",
    "zER ZHIVETE"]⟩,
  ⟨122888, ["aCOMBINING GLAGOLITIC LETTER ZEMLJAzER IZHEzER INITIAL IZHEzER IzER DJERVI",
    "zER KAKOzER LJUDIJEzER MYSLITEzER NASHIzER ONUzER POKOJIzER RITSIzER SLOVOzER TVRIDO",
    "zER UKUzER FRITUzER HERU"]⟩,
  ⟨122907, ["aCOMBINING GLAGOLITIC LETTER SHTAzER TSIzER CHRIVIzER SHAzER YERUzER YERIzER YATI"]⟩,
  ⟨122915, ["aCOMBINING GLAGOLITIC LETTER YUzER SMALL YUS"]⟩,
  ⟨122918, ["aCOMBINING GLAGOLITIC LETTER YOzER IOTATED SMALL YUSzER BIG YUS",
    "zER IOTATED BIG YUSzER FITA"]⟩,
  ⟨123136, ["aNYIAKENG PUACHUE HMONG LETTER MAzTTER TSAzTTER NTAzTTER TAzTTER HAzTTER NA",
    "zTTER XAzTTER NKAzTTER CAzTTER LAzTTER SAzTTER ZAzTTER NCAzTTER NTSAzTTER KAzTTER DA",
    "zTTER NYAzTTER NRAzTTER VAzTTER NTXAzTTER TXAzTTER FAzTTER RAzTTER QAzTTER YAzTTER NQA",
    "zTTER PAzTTER XYAzTTER NPAzTTER DLAzTTER NPLAzTTER HAHzTTER MLAzTTER PLAzTTER GAzTTER RRA",
    "zTTER AzTTER AAzTTER IzTTER UzTTER OzTTER OOzTTER EzTTER EEzTTER W"]⟩,
  ⟨123184, ["aNYIAKENG PUACHUE HMONG TONE-BzNE-MzNE-JzNE-VzNE-SzNE-GzNE-DxSIGN FOR PERSON",
    "zGN FOR THINGzGN FOR LOCATIONzGN FOR ANIMALzGN FOR INVERTEBRATEzGN XW XW",
    "yYLLABLE LENGTHENER"]⟩,
  ⟨123200, ["aNYIAKENG PUACHUE HMONG DIGIT ZEROzGIT ONEzGIT TWOzGIT THREEzGIT FOURzGIT FIVE",
    "zGIT SIXzGIT SEVENzGIT EIGHTzGIT NINE"]⟩,
  ⟨123214, ["aNYIAKENG PUACHUE HMONG LOGOGRAM NYAJxCIRCLED CA"]⟩,
  ⟨123536, ["aTOTO LETTER PAmBAmTAmDAmKAmGAmMAmNAnGAmSAmCHAmYAmWAmJAmHAmRAmLAmImBREATHY ImIU",
    "mBREATHY IUmUmEmBREATHY EmEOmBREATHY EOmOmAEmBREATHY AEmAfSIGN RISING TONE"]⟩,
  ⟨123584, ["aWANCHO LETTER AApoBAoCAoDAoGAoYAoPHAoLAoNAoPAoTApHAoFAoSApHAoJAoZAoWAoVAoKAoOoAU",
    "oRAoMAoKHAoHAoEoIoNGAoUoLLHAoTSApRAoONGoAANGpNGoINGoONoENoAANoNYAoUENoYIHhTONE TUPpNImKOI",
    "pNIhDIGIT ZEROnONEnTWOoHREEnFOURoIVEnSIXoEVENnEIGHTnNINE"]⟩,
  ⟨123647, ["aWANCHO NGUN SIGN"]⟩,
  ⟨124896, ["aETHIOPIC SYLLABLE HHYAvUvIvAAvEEwvO"]⟩,
  ⟨124904, ["aETHIOPIC SYLLABLE GURAGE HHWAsHHWIvEEw"]⟩,
  ⟨124909, ["aETHIOPIC SYLLABLE GURAGE MWIzMWEE"]⟩,
  ⟨124912, ["aETHIOPIC SYLLABLE GURAGE QWIzQWEEzQWEzBWIzBWEEzKWIzKWEEzKWEzGWIzGWEEzGWEzFWI",
    "zFWEEzPWIzPWEE"]⟩,
  ⟨124928, ["aMENDE KIKAKUI SYLLABLE M001 KIz02 KAz03 KUz65 KEEz95 KEz76 KOOz48 KOy179 KUA",
    "y004 WIz05 WAz06 WUy126 WEEz18 WEz14 WOOy045 WOy194 WUIz43 WEIy061 WVIz49 WVAy139 WVE",
    "y007 MINz08 MANz09 MUNz59 MENz94 MONy154 MUANz89 MUENy010 BIz11 BAz12 BUy150 BEEy097 BE",
    "y103 BOOz38 BOy013 Iz14 Az15 Uy163 EEz00 Ez65 OOz47 Oz37 EIz31 INz35 INz95 ANz78 EN",
    "y019 SIz20 SAz21 SUy162 SEEz16 SEz36 SOOy079 SOy196 SIAy025 LIz26 LAz27 LUz84 LEEz73 LE",
    "z54 LOOy153 LOz10 LONG LEy016 DIz17 DAz18 DUz89 DEEy180 DOOz81 DOy022 TIz23 TAz24 TU",
    "z91 TEEz55 TEy104 TOOy069 TOz28 JIz29 JAz30 JUy157 JEEz13 JEz60 JOOy063 JOy175 LONG JO",
    "y031 YIz32 YAz33 YUy109 YEEy080 YEy141 YOOz21 YOy034 FIz35 FAz36 FUz78 FEEz75 FEy133 FOO",
    "y088 FOy197 FUAz01 FANy037 NINz38 NANz39 NUNy117 NENz69 NONz76 HIy041 HAy186 HUy040 HEE",
    "z96 HEz42 HOOy140 HOy083 HEEIy128 HOOUy053 HINy130 HANy087 HUNz52 HENy193 HONy046 HUAN",
    "z90 NGGIz43 NGGAz82 NGGUy115 NGGEEz46 NGGEz56 NGGOOz20 NGGOz59 NGGAAz27 NGGUA",
    "y086 LONG NGGEy106 LONG NGGOOz83 LONG NGGOz55 GIz11 GAz68 GUz90 GEEz66 GUEIz67 GUAN",
    "z84 NGENy057 NGONy177 NGUANy068 PIz99 PAz50 PUz81 PEEz51 PEy102 POOy066 POy145 MBI",
    "y062 MBAy122 MBUy047 MBEEy188 MBEEy072 MBEy172 MBOOz74 MBOz87 MBUUz61 LONG MBE",
    "z05 LONG MBOOz42 LONG MBOz32 KPIy092 KPAz74 KPUz44 KPEEy108 KPEz12 KPOOz58 KPOz24 GBI",
    "y056 GBAy148 GBUy093 GBEEy107 GBEy071 GBOOz70 GBOy171 RAz23 NDIz29 NDAz25 NDUz91 NDEE",
    "z19 NDEy067 NDOOz64 NDOy152 NJAz92 NJUz49 NJEEz34 NJOOz82 VIz85 VAz51 VUz73 VEEy085 VE",
    "y144 VOOy077 VOy164 NYINy058 NYANy170 NYUNy098 NYENz60 NYON"]⟩,
  ⟨125127, ["aMENDE KIKAKUI DIGIT ONEuTWOvHREEuFOURvIVEuSIXvEVENuEIGHTuNINE",
    "oCOMBINING NUMBER TEENSzUMBER TENSzUMBER HUNDREDSzUMBER THOUSANDSzUMBER TEN THOUSANDS",
    "zUMBER HUNDRED THOUSANDSzUMBER MILLIONS"]⟩,
  ⟨125184, ["aADLAM CAPITAL LETTER ALIFvDAALIvLAAMvMIIMvBAvSINNYIIYHEvPEvBHEvRAvEvFAvIvOvDHA",
    "vYHEvWAWvNUNvKAFvYAvUvJIIMvCHIvHAvQAAFvGAvNYAvTUvNHAvVAvKHAvGBEvZALvKPOvSHA",
    "gSMALL LETTER ALIFtDAALItLAAMtMIIMtBAtSINNYIIYHEtPEtBHEtRAtEtFAtItOtDHAtYHEtWAWtNUNtKAF",
    "tYAtUtJIIMtCHItHAtQAAFtGAtNYAtTUtNHAtVAtKHAtGBEtZALtKPOtSHAgALIF LENGTHENER",
    "gVOWEL LENGTHENERgGEMINATION MARKgHAMZAgCONSONANT MODIFIERgGEMINATE CONSONANT MODIFIER",
    "gNUKTAhASALIZATION MARK"]⟩,
  ⟨125264, ["aADLAM DIGIT ZEROmONEmTWOnHREEmFOURnIVEmSIXnEVENmEIGHTmNINE"]⟩,
  ⟨125278, ["aADLAM INITIAL EXCLAMATION MARKoQUESTION MARK"]⟩,
  ⟨126065, ["aINDIC SIYAQ NUMBER ONEtTWOuHREEtFOURuIVEtSIXuEVENtEIGHTtNINEtTENuWENTYuHIRTY",
    "tFORTYuIFTYtSIXTYuEVENTYtEIGHTYtNINETYtONE HUNDREDtTWO HUNDREDuHREE HUNDREDtFOUR HUNDRED",
    "uIVE HUNDREDtSIX HUNDREDuEVEN HUNDREDtEIGHT HUNDREDtNINE HUNDREDtONE THOUSAND",
    "tTWO THOUSANDuHREE THOUSANDtFOUR THOUSANDuIVE THOUSANDtSIX THOUSANDuEVEN THOUSAND",
    "tEIGHT THOUSANDtNINE THOUSANDtTEN THOUSANDuWENTY THOUSANDuHIRTY THOUSANDtFORTY THOUSAND",
    "uIFTY THOUSANDtSIXTY THOUSANDuEVENTY THOUSANDtEIGHTY THOUSANDtNINETY THOUSANDtLAKHxAN",
    "mLAKH MARKmNUMBER KARORyANtPREFIXED ONEzED TWOzED THREEzED FOURzED FIVEzED SIXzED SEVEN",
    "zED EIGHTzED NINEmPLACEHOLDERmFRACTION ONE QUARTERzHALFvTHREE QUARTERSmRUPEE MARK",
    "mNUMBER ALTERNATE ONEzATE TWOzATE TEN THOUSANDmALTERNATE LAKH MARK"]⟩,
  ⟨126209, ["aOTTOMAN SIYAQ NUMBER ONEvTWOwHREEvFOURwIVEvSIXwEVENvEIGHTvNINEvTENwWENTYwHIRTY",
    "vFORTYwIFTYvSIXTYwEVENTYvEIGHTYvNINETYvONE HUNDREDvTWO HUNDREDwHREE HUNDREDvFOUR HUNDRED",
    "wIVE HUNDREDvSIX HUNDREDwEVEN HUNDREDvEIGHT HUNDREDvNINE HUNDREDvONE THOUSAND",
    "vTWO THOUSANDwHREE THOUSANDvFOUR THOUSANDwIVE THOUSANDvSIX THOUSANDwEVEN THOUSAND",
    "vEIGHT THOUSANDvNINE THOUSANDvTEN THOUSANDwWENTY THOUSANDwHIRTY THOUSANDvFORTY THOUSAND",
    "wIFTY THOUSANDvSIXTY THOUSANDwEVENTY THOUSANDvEIGHTY THOUSANDvNINETY THOUSANDoMARRATAN",
    "oALTERNATE NUMBER TWOzUMBER THREEzUMBER FOURzUMBER FIVEzUMBER SIXzUMBER SEVENzUMBER EIGHT",
    "zUMBER NINEzUMBER TENzUMBER FOUR HUNDREDzUMBER SIX HUNDREDzUMBER TWO THOUSAND",
    "zUMBER TEN THOUSANDoFRACTION ONE HALFzE SIXTH"]⟩,
  ⟨126464, ["aARABIC MATHEMATICAL ALEFuBEHuJEEMuDAL"]⟩,
  ⟨126469, ["aARABIC MATHEMATICAL WAWuZAINuHAHuTAHuYEHuKAFuLAMuMEEMuNOONuSEENuAINuFEHuSADuQAF",
    "uREHuSHEENuTEHvHEHuKHAHuTHALuDADuZAHuGHAINuDOTLESS BEHzSS NOONzSS FEHzSS QAF"]⟩,
  ⟨126497, ["aARABIC MATHEMATICAL INITIAL BEHzAL JEEM"]⟩,
  ⟨126500, ["aARABIC MATHEMATICAL INITIAL HEH"]⟩,
  ⟨126503, ["aARABIC MATHEMATICAL INITIAL HAH"]⟩,
  ⟨126505, ["aARABIC MATHEMATICAL INITIAL YEHzAL KAFzAL LAMzAL MEEMzAL NOONzAL SEENzAL AIN",
    "zAL FEHzAL SADzAL QAF"]⟩,
  ⟨126516, ["aARABIC MATHEMATICAL INITIAL SHEENzAL TEHzAL THEHzAL KHAH"]⟩,
  ⟨126521, ["aARABIC MATHEMATICAL INITIAL DAD"]⟩,
  ⟨126523, ["aARABIC MATHEMATICAL INITIAL GHAIN"]⟩,
  ⟨126530, ["aARABIC MATHEMATICAL TAILED JEEM"]⟩,
  ⟨126535, ["aARABIC MATHEMATICAL TAILED HAH"]⟩,
  ⟨126537, ["aARABIC MATHEMATICAL TAILED YEH"]⟩,
  ⟨126539, ["aARABIC MATHEMATICAL TAILED LAM"]⟩,
  ⟨126541, ["aARABIC MATHEMATICAL TAILED NOONzD SEENzD AIN"]⟩,
  ⟨126545, ["aARABIC MATHEMATICAL TAILED SADzD QAF"]⟩,
  ⟨126548, ["aARABIC MATHEMATICAL TAILED SHEEN"]⟩,
  ⟨126551, ["aARABIC MATHEMATICAL TAILED KHAH"]⟩,
  ⟨126553, ["aARABIC MATHEMATICAL TAILED DAD"]⟩,
  ⟨126555, ["aARABIC MATHEMATICAL TAILED GHAIN"]⟩,
  ⟨126557, ["aARABIC MATHEMATICAL TAILED DOTLESS NOON"]⟩,
  ⟨126559, ["aARABIC MATHEMATICAL TAILED DOTLESS QAF"]⟩,
  ⟨126561, ["aARABIC MATHEMATICAL STRETCHED BEHzCHED JEEM"]⟩,
  ⟨126564, ["aARABIC MATHEMATICAL STRETCHED HEH"]⟩,
  ⟨126567, ["aARABIC MATHEMATICAL STRETCHED HAHzCHED TAHzCHED YEHzCHED KAF"]⟩,
  ⟨126572, ["aARABIC MATHEMATICAL STRETCHED MEEMzCHED NOONzCHED SEENzCHED AINzCHED FEH",
    "zCHED SADzCHED QAF"]⟩,
  ⟨126580, ["aARABIC MATHEMATICAL STRETCHED SHEENzCHED TEHzCHED THEHzCHED KHAH"]⟩,
  ⟨126585, ["aARABIC MATHEMATICAL STRETCHED DADzCHED ZAHzCHED GHAINzCHED DOTLESS BEH"]⟩,
  ⟨126590, ["aARABIC MATHEMATICAL STRETCHED DOTLESS FEH"]⟩,
  ⟨126592, ["aARABIC MATHEMATICAL LOOPED ALEFzD BEHzD JEEMzD DALzD HEHzD WAWzD ZAINzD HAH",
    "zD TAHzD YEH"]⟩,
  ⟨126603, ["aARABIC MATHEMATICAL LOOPED LAMzD MEEMzD NOONzD SEENzD AINzD FEHzD SADzD QAF",
    "zD REHzD SHEENzD TEHzD THEHzD KHAHzD THALzD DADzD ZAHzD GHAIN"]⟩,
  ⟨126625, ["aARABIC MATHEMATICAL DOUBLE-STRUCK BEHzE-STRUCK JEEMzE-STRUCK DAL"]⟩,
  ⟨126629, ["aARABIC MATHEMATICAL DOUBLE-STRUCK WAWzE-STRUCK ZAINzE-STRUCK HAHzE-STRUCK TAH",
    "zE-STRUCK YEH"]⟩,
  ⟨126635, ["aARABIC MATHEMATICAL DOUBLE-STRUCK LAMzE-STRUCK MEEMzE-STRUCK NOONzE-STRUCK SEEN",
    "zE-STRUCK AINzE-STRUCK FEHzE-STRUCK SADzE-STRUCK QAFzE-STRUCK REHzE-STRUCK SHEEN",
    "zE-STRUCK TEHzE-STRUCK THEHzE-STRUCK KHAHzE-STRUCK THALzE-STRUCK DADzE-STRUCK ZAH",
    "zE-STRUCK GHAIN"]⟩,
  ⟨126704, ["aARABIC MATHEMATICAL OPERATOR MEEM WITH HAH WITH TATWEELzTOR HAH WITH DAL"]⟩,
  ⟨126976, ["aMAHJONG TILE EAST WINDnSOUTH WINDnWEST WINDnNORTH WINDnRED DRAGONnGREEN DRAGON",
    "nWHITE DRAGONnONE OF CHARACTERSnTWO OF CHARACTERSoHREE OF CHARACTERSnFOUR OF CHARACTERS",
    "oIVE OF CHARACTERSnSIX OF CHARACTERSoEVEN OF CHARACTERSnEIGHT OF CHARACTERS",
    "nNINE OF CHARACTERSnONE OF BAMBOOSnTWO OF BAMBOOSoHREE OF BAMBOOSnFOUR OF BAMBOOS",
    "oIVE OF BAMBOOSnSIX OF BAMBOOSoEVEN OF BAMBOOSnEIGHT OF BAMBOOSnNINE OF BAMBOOS",
    "nONE OF CIRCLESnTWO OF CIRCLESoHREE OF CIRCLESnFOUR OF CIRCLESoIVE OF CIRCLES",
    "nSIX OF CIRCLESoEVEN OF CIRCLESnEIGHT OF CIRCLESnNINE OF CIRCLESnPLUMnORCHIDnBAMBOO",
    "nCHRYSANTHEMUMnSPRINGoUMMERnAUTUMNnWINTERnJOKERnBACK"]⟩,
  ⟨127024, ["aDOMINO TILE HORIZONTAL BACKw-00-00z-01z-02z-03z-04z-05z-06y1-00z-01z-02z-03z-04",
    "z-05z-06y2-00z-01z-02z-03z-04z-05z-06y3-00z-01z-02z-03z-04z-05z-06y4-00z-01z-02z-03z-04",
    "z-05z-06y5-00z-01z-02z-03z-04z-05z-06y6-00z-01z-02z-03z-04z-05z-06mVERTICAL BACKu-00-00z1",
    "z2z3z4z5z6w1-00z1z2z3z4z5z6w2-00z1z2z3z4z5z6w3-00z1z2z3z4z5z6w4-00z1z2z3z4z5z6w5-00z1z2z3",
    "z4z5z6w6-00z1z2z3z4z5z6"]⟩,
  ⟨127136, ["aPLAYING CARD BACKnACE OF SPADESnTWO OF SPADESoHREE OF SPADESnFOUR OF SPADES",
    "oIVE OF SPADESnSIX OF SPADESoEVEN OF SPADESnEIGHT OF SPADESnNINE OF SPADESnTEN OF SPADES",
    "nJACK OF SPADESnKNIGHT OF SPADESnQUEEN OF SPADESnKING OF SPADES"]⟩,
  ⟨127153, ["aPLAYING CARD ACE OF HEARTSnTWO OF HEARTSoHREE OF HEARTSnFOUR OF HEARTS",
    "oIVE OF HEARTSnSIX OF HEARTSoEVEN OF HEARTSnEIGHT OF HEARTSnNINE OF HEARTSnTEN OF HEARTS",
    "nJACK OF HEARTSnKNIGHT OF HEARTSnQUEEN OF HEARTSnKING OF HEARTSnRED JOKER"]⟩,
  ⟨127169, ["aPLAYING CARD ACE OF DIAMONDSnTWO OF DIAMONDSoHREE OF DIAMONDSnFOUR OF DIAMONDS",
    "oIVE OF DIAMONDSnSIX OF DIAMONDSoEVEN OF DIAMONDSnEIGHT OF DIAMONDSnNINE OF DIAMONDS",
    "nTEN OF DIAMONDSnJACK OF DIAMONDSnKNIGHT OF DIAMONDSnQUEEN OF DIAMONDSnKING OF DIAMONDS",
    "nBLACK JOKER"]⟩,
  ⟨127185, ["aPLAYING CARD ACE OF CLUBSnTWO OF CLUBSoHREE OF CLUBSnFOUR OF CLUBSoIVE OF CLUBS",
    "nSIX OF CLUBSoEVEN OF CLUBSnEIGHT OF CLUBSnNINE OF CLUBSnTEN OF CLUBSnJACK OF CLUBS",
    "nKNIGHT OF CLUBSnQUEEN OF CLUBSnKING OF CLUBSnWHITE JOKERnFOOLnTRUMP-1t2t3t4t5t6t7t8t9t10",
    "u1u2u3u4u5u6u7u8u9t20u1"]⟩,
  ⟨127232, ["aDIGIT ZERO FULL STOPlCOMMAgONE COMMAgTWO COMMAhHREE COMMAgFOUR COMMAhIVE COMMA",
    "gSIX COMMAhEVEN COMMAgEIGHT COMMAgNINE COMMAcNGBAT CIRCLED SANS-SERIF DIGIT ZERO",
    "iNEGATIVE CIRCLED SANS-SERIF DIGIT ZEROaCIRCLED ZERO WITH SLASHiANTICLOCKWISE ARROW",
    "iDOLLAR SIGN WITH OVERLAID BACKSLASHaPARENTHESIZED LATIN CAPITAL LETTER AzAL LETTER B",
    "zAL LETTER CzAL LETTER DzAL LETTER EzAL LETTER FzAL LETTER GzAL LETTER HzAL LETTER I",
    "zAL LETTER JzAL LETTER KzAL LETTER LzAL LETTER MzAL LETTER NzAL LETTER OzAL LETTER P",
    "zAL LETTER QzAL LETTER RzAL LETTER SzAL LETTER TzAL LETTER UzAL LETTER VzAL LETTER W",
    "zAL LETTER XzAL LETTER YzAL LETTER ZaTORTOISE SHELL BRACKETED LATIN CAPITAL LETTER S",
    "aCIRCLED ITALIC LATIN CAPITAL LETTER CzTAL LETTER RiCDiWZbOPYLEFT SYMBOL",
    "aSQUARED LATIN CAPITAL LETTER AzTER BzTER CzTER DzTER EzTER FzTER GzTER HzTER IzTER J",
    "zTER KzTER LzTER MzTER NzTER OzTER PzTER QzTER RzTER SzTER TzTER UzTER VzTER WzTER X",
    "zTER YzTER ZiHViMViSDjSiPPViWCaNEGATIVE CIRCLED LATIN CAPITAL LETTER AzPITAL LETTER B",
    "zPITAL LETTER CzPITAL LETTER DzPITAL LETTER EzPITAL LETTER FzPITAL LETTER G",
    "zPITAL LETTER HzPITAL LETTER IzPITAL LETTER JzPITAL LETTER KzPITAL LETTER L",
    "zPITAL LETTER MzPITAL LETTER NzPITAL LETTER OzPITAL LETTER PzPITAL LETTER Q",
    "zPITAL LETTER RzPITAL LETTER SzPITAL LETTER TzPITAL LETTER UzPITAL LETTER V",
    "zPITAL LETTER WzPITAL LETTER XzPITAL LETTER YzPITAL LETTER ZaRAISED MC SIGNiD SIGNiR SIGN",
    "aCIRCLED CCj WITH OVERLAID BACKSLASHiHUMAN FIGUREaNEGATIVE SQUARED LATIN CAPITAL LETTER A",
    "zPITAL LETTER BzPITAL LETTER CzPITAL LETTER DzPITAL LETTER EzPITAL LETTER F",
    "zPITAL LETTER GzPITAL LETTER HzPITAL LETTER IzPITAL LETTER JzPITAL LETTER K",
    "zPITAL LETTER LzPITAL LETTER MzPITAL LETTER NzPITAL LETTER OzPITAL LETTER P",
    "zPITAL LETTER QzPITAL LETTER RzPITAL LETTER SzPITAL LETTER TzPITAL LETTER U",
    "zPITAL LETTER VzPITAL LETTER WzPITAL LETTER XzPITAL LETTER YzPITAL LETTER Z",
    "aCROSSED NEGATIVE SQUARED LATIN CAPITAL LETTER PaNEGATIVE SQUARED ICrPArSArABrWC",
    "aSQUARE DJgD CLjOOLiFREEiIDiNEWjGiOKiSOSiUP WITH EXCLAMATION MARKiVSiTHREE D",
    "iSECOND SCREENiTWO KiFOUR KiEIGHT KiFIVE POINT ONEiSEVEN POINT ONEiTWENTY-TWO POINT TWO",
    "iSIXTY PiONE HUNDRED TWENTY PiLATIN SMALL LETTER DiHCjDRjI-RESiLOSSLESSiSHViUHDiVOD",
    "aMASK WORK SYMBOL"]⟩,
  ⟨127462, ["aREGIONAL INDICATOR SYMBOL LETTER Az LETTER Bz LETTER Cz LETTER Dz LETTER E",
    "z LETTER Fz LETTER Gz LETTER Hz LETTER Iz LETTER Jz LETTER Kz LETTER Lz LETTER M",
    "z LETTER Nz LETTER Oz LETTER Pz LETTER Qz LETTER Rz LETTER Sz LETTER Tz LETTER U",
    "z LETTER Vz LETTER Wz LETTER Xz LETTER Yz LETTER ZaSQUARE HIRAGANA HOKAgD KATAKANA KOKO",
    "rSA"]⟩,
  ⟨127504, ["aSQUARED CJK UNIFIED IDEOGRAPH-624BzRAPH-5B57zRAPH-53CCiKATAKANA DE",
    "iCJK UNIFIED IDEOGRAPH-4E8CzRAPH-591AzRAPH-89E3zRAPH-5929zRAPH-4EA4zRAPH-6620zRAPH-7121",
    "zRAPH-6599zRAPH-524DzRAPH-5F8CzRAPH-518DzRAPH-65B0zRAPH-521DzRAPH-7D42zRAPH-751F",
    "zRAPH-8CA9zRAPH-58F0zRAPH-5439zRAPH-6F14zRAPH-6295zRAPH-6355zRAPH-4E00zRAPH-4E09",
    "zRAPH-904AzRAPH-5DE6zRAPH-4E2DzRAPH-53F3zRAPH-6307zRAPH-8D70zRAPH-6253zRAPH-7981",
    "zRAPH-7A7AzRAPH-5408zRAPH-6E80zRAPH-6709zRAPH-6708zRAPH-7533zRAPH-5272zRAPH-55B6",
    "zRAPH-914D"]⟩,
  ⟨127552, ["aTORTOISE SHELL BRACKETED CJK UNIFIED IDEOGRAPH-672CzCJK UNIFIED IDEOGRAPH-4E09",
    "zCJK UNIFIED IDEOGRAPH-4E8CzCJK UNIFIED IDEOGRAPH-5B89zCJK UNIFIED IDEOGRAPH-70B9",
    "zCJK UNIFIED IDEOGRAPH-6253zCJK UNIFIED IDEOGRAPH-76D7zCJK UNIFIED IDEOGRAPH-52DD",
    "zCJK UNIFIED IDEOGRAPH-6557"]⟩,
  ⟨127568, ["aCIRCLED IDEOGRAPH ADVANTAGEtCCEPT"]⟩,
  ⟨127584, ["aROUNDED SYMBOL FOR FUtLUtSHOUtXItSHUANGXItCAI"]⟩,
  ⟨127744, ["aCYCLONEaFOGGYaCLOSED UMBRELLAaNIGHT WITH STARSaSUNRISE OVER MOUNTAINSh",
    "aCITYSCAPE AT DUSKaSUNSET OVER BUILDINGSaRAINBOWaBRIDGE AT NIGHTaWATER WAVEaVOLCANO",
    "aMILKY WAYaEARTH GLOBE EUROPE-AFRICAmAMERICASnSIA-AUSTRALIAaGLOBE WITH MERIDIANS",
    "aNEW MOON SYMBOLaWAXING CRESCENT MOON SYMBOLaFIRST QUARTER MOON SYMBOL",
    "aWAXING GIBBOUS MOON SYMBOLaFULL MOON SYMBOLaWANING GIBBOUS MOON SYMBOL",
    "aLAST QUARTER MOON SYMBOLaWANING CRESCENT MOON SYMBOLaCRESCENT MOONaNEW MOON WITH FACE",
    "aFIRST QUARTER MOON WITH FACEaLAST QUARTER MOON WITH FACEaFULL MOON WITH FACE",
    "aSUN WITH FACEaGLOWING STARaSHOOTING STARaTHERMOMETERaBLACK DROPLETaWHITE SUN",
    "j WITH SMALL CLOUDkBEHIND CLOUDw WITH RAINaCLOUD WITH RAINlSNOWlLIGHTNINGlTORNADOaFOG",
    "aWIND BLOWING FACEaHOT DOGaTACOaBURRITOaCHESTNUTaSEEDLINGaEVERGREEN TREEaDECIDUOUS TREE",
    "aPALM TREEaCACTUSaHOT PEPPERaTULIPaCHERRY BLOSSOMaROSEaHIBISCUSaSUNFLOWERaBLOSSOM",
    "aEAR OF MAIZEhRICEaHERBaFOUR LEAF CLOVERaMAPLE LEAFaFALLEN LEAFaLEAF FLUTTERING IN WIND",
    "aMUSHROOMaTOMATOaAUBERGINEaGRAPESaMELONaWATERMELONaTANGERINEaLEMONaBANANAaPINEAPPLE",
    "aRED APPLEaGREEN APPLEaPEARdCHaCHERRIESaSTRAWBERRYaHAMBURGERaSLICE OF PIZZAaMEAT ON BONE",
    "aPOULTRY LEGaRICE CRACKERfBALLaCOOKED RICEbURRY AND RICEaSTEAMING BOWLbPAGHETTIaBREAD",
    "aFRENCH FRIESaROASTED SWEET POTATOaDANGOaODENaSUSHIaFRIED SHRIMP",
    "bISH CAKE WITH SWIRL DESIGNaSOFT ICE CREAMbHAVED ICEaICE CREAMaDOUGHNUTaCOOKIE",
    "bHOCOLATE BARbANDYaLOLLIPOPaCUSTARDaHONEY POTaSHORTCAKEaBENTO BOXaPOT OF FOODaCOOKING",
    "aFORK AND KNIFEaTEACUP WITHOUT HANDLEaSAKE BOTTLE AND CUPaWINE GLASSaCOCKTAIL GLASS",
    "aTROPICAL DRINKaBEER MUGaCLINKING BEER MUGSaBABY BOTTLEaFORK AND KNIFE WITH PLATE",
    "aBOTTLE WITH POPPING CORKaPOPCORNaRIBBONaWRAPPED PRESENTaBIRTHDAY CAKEaJACK-O-LANTERN",
    "aCHRISTMAS TREEaFATHER CHRISTMASbIREWORKSi SPARKLERaBALLOONaPARTY POPPERaCONFETTI BALL",
    "aTANABATA TREEaCROSSED FLAGSaPINE DECORATIONaJAPANESE DOLLSaCARP STREAMERaWIND CHIME",
    "aMOON VIEWING CEREMONYaSCHOOL SATCHELaGRADUATION CAPaHEART WITH TIP ON THE LEFT",
    "aBOUQUET OF FLOWERSaMILITARY MEDALaREMINDER RIBBONaMUSICAL KEYBOARD WITH JACKS",
    "aSTUDIO MICROPHONEaLEVEL SLIDERaCONTROL KNOBSaBEAMED ASCENDING MUSICAL NOTES",
    "hDESCENDING MUSICAL NOTESaFILM FRAMESaADMISSION TICKETSaCAROUSEL HORSEaFERRIS WHEEL",
    "aROLLER COASTERaFISHING POLE AND FISHaMICROPHONEbOVIE CAMERAaCINEMAaHEADPHONE",
    "aARTIST PALETTEaTOP HATaCIRCUS TENTaTICKETaCLAPPER BOARDaPERFORMING ARTSaVIDEO GAME",
    "aDIRECT HITaSLOT MACHINEaBILLIARDSaGAME DIEaBOWLINGaFLOWER PLAYING CARDSaMUSICAL NOTE",
    "cLTIPLE MUSICAL NOTESaSAXOPHONEaGUITARaMUSICAL KEYBOARDaTRUMPETaVIOLINaMUSICAL SCORE",
    "aRUNNING SHIRT WITH SASHaTENNIS RACQUET AND BALLaSKI AND SKI BOOTaBASKETBALL AND HOOP",
    "aCHEQUERED FLAGaSNOWBOARDERaRUNNERaSURFERbPORTS MEDALaTROPHYaHORSE RACING",
    "aAMERICAN FOOTBALLaRUGBY FOOTBALLaSWIMMERaWEIGHT LIFTERaGOLFERaRACING MOTORCYCLEhCAR",
    "aCRICKET BAT AND BALLaVOLLEYBALLaFIELD HOCKEY STICK AND BALLaICE HOCKEY STICK AND PUCK",
    "aTABLE TENNIS PADDLE AND BALLaSNOW CAPPED MOUNTAINaCAMPINGaBEACH WITH UMBRELLA",
    "bUILDING CONSTRUCTIONaHOUSE BUILDINGSaCITYSCAPEaDERELICT HOUSE BUILDING",
    "aCLASSICAL BUILDINGaDESERTg ISLANDaNATIONAL PARKaSTADIUMaHOUSE BUILDINGgWITH GARDEN",
    "aOFFICE BUILDINGaJAPANESE POST OFFICEaEUROPEAN POST OFFICEaHOSPITALaBANK",
    "aAUTOMATED TELLER MACHINEaHOTELaLOVE HOTELaCONVENIENCE STOREaSCHOOLaDEPARTMENT STORE",
    "aFACTORYaIZAKAYA LANTERNaJAPANESE CASTLEaEUROPEAN CASTLEaWHITE PENNANTaBLACK PENNANT",
    "aWAVING WHITE FLAGhBLACK FLAGaROSETTEaBLACK ROSETTEaLABEL",
    "aBADMINTON RACQUET AND SHUTTLECOCKbOW AND ARROWaAMPHORA",
    "aEMOJI MODIFIER FITZPATRICK TYPE-1-2zK TYPE-3zK TYPE-4zK TYPE-5zK TYPE-6aRATaMOUSEaOX",
    "aWATER BUFFALOaCOWaTIGERaLEOPARDaRABBITaCATaDRAGONaCROCODILEaWHALEaSNAILdKEaHORSEaRAM",
    "aGOATaSHEEPaMONKEYaROOSTERaCHICKENaDOGaPIGaBOARaELEPHANTaOCTOPUSaSPIRAL SHELLaBUGaANT",
    "aHONEYBEEaLADY BEETLEaFISHaTROPICAL FISHaBLOWFISHaTURTLEaHATCHING CHICKaBABY CHICK",
    "aFRONT-FACING BABY CHICKaBIRDaPENGUINaKOALAaPOODLEaDROMEDARY CAMELaBACTRIAN CAMELaDOLPHIN",
    "aMOUSE FACEaCOW FACEaTIGER FACEaRABBIT FACEaCAT FACEaDRAGON FACEaSPOUTING WHALE",
    "aHORSE FACEaMONKEY FACEaDOG FACEaPIG FACEaFROG FACEaHAMSTER FACEaWOLF FACEaBEAR FACE",
    "aPANDA FACEbIG NOSEbAW PRINTSaCHIPMUNKaEYESdbARaNOSEaMOUTHaTONGUE",
    "aWHITE UP POINTING BACKHAND INDEXgDOWN POINTING BACKHAND INDEX",
    "gLEFT POINTING BACKHAND INDEXgRIGHT POINTING BACKHAND INDEXaFISTED HAND SIGN",
    "aWAVING HAND SIGNaOK HAND SIGNaTHUMBS UP SIGNhDOWN SIGNaCLAPPING HANDS SIGN",
    "aOPEN HANDS SIGNaCROWNaWOMANS HATaEYEGLASSESaNECKTIEaT-SHIRTaJEANSaDRESSaKIMONOaBIKINI",
    "aWOMANS CLOTHESaPURSEaHANDBAGaPOUCHaMANS SHOEaATHLETIC SHOEaHIGH-HEELED SHOE",
    "aWOMANS SANDALhBOOTSaFOOTPRINTSaBUST IN SILHOUETTEeS IN SILHOUETTEbOYaGIRLaMANaWOMAN",
    "aFAMILYaMAN AND WOMAN HOLDING HANDSaTWO MEN HOLDING HANDSeWOMEN HOLDING HANDS",
    "aPOLICE OFFICERaWOMAN WITH BUNNY EARSaBRIDE WITH VEILaPERSON WITH BLOND HAIR",
    "aMAN WITH GUA PI MAOjTURBANaOLDER MANgWOMANaBABYaCONSTRUCTION WORKERaPRINCESS",
    "aJAPANESE OGREjGOBLINaGHOSTaBABY ANGELaEXTRATERRESTRIAL ALIENaALIEN MONSTERaIMPaSKULL",
    "aINFORMATION DESK PERSONaGUARDSMANaDANCERaLIPSTICKaNAIL POLISHaFACE MASSAGEaHAIRCUT",
    "aBARBER POLEaSYRINGEaPILLaKISS MARKaLOVE LETTERaRINGaGEM STONEaKISSaBOUQUET",
    "aCOUPLE WITH HEARTaWEDDINGaBEATING HEARTbROKEN HEARTaTWO HEARTSaSPARKLING HEART",
    "aGROWING HEARTaHEART WITH ARROWaBLUE HEARTaGREEN HEARTaYELLOW HEARTaPURPLE HEART",
    "aHEART WITH RIBBONaREVOLVING HEARTSaHEART DECORATIONaDIAMOND SHAPE WITH A DOT INSIDE",
    "aELECTRIC LIGHT BULBaANGER SYMBOLaBOMBaSLEEPING SYMBOLaCOLLISION SYMBOL",
    "aSPLASHING SWEAT SYMBOLaDROPLETbASH SYMBOLaPILE OF POOaFLEXED BICEPSaDIZZY SYMBOL",
    "aSPEECH BALLOONaTHOUGHT BALLOONaWHITE FLOWERaHUNDRED POINTS SYMBOLaMONEY BAG",
    "aCURRENCY EXCHANGEaHEAVY DOLLAR SIGNaCREDIT CARDaBANKNOTE WITH YEN SIGNoDOLLAR SIGN",
    "oEURO SIGNoPOUND SIGNaMONEY WITH WINGSaCHART WITH UPWARDS TREND AND YEN SIGNaSEAT",
    "aPERSONAL COMPUTERaBRIEFCASEaMINIDISCaFLOPPY DISKaOPTICAL DISCaDVDaFILE FOLDER",
    "aOPEN FILE FOLDERaPAGE WITH CURLfFACING UPaCALENDARaTEAR-OFF CALENDARaCARD INDEX",
    "bHART WITH UPWARDS TRENDlDOWNWARDS TRENDaBAR CHARTaCLIPBOARDaPUSHPINaROUND PUSHPIN",
    "aPAPERCLIPaSTRAIGHT RULERaTRIANGULAR RULERaBOOKMARK TABSaLEDGERaNOTEBOOK",
    "i WITH DECORATIVE COVERaCLOSED BOOKaOPEN BOOKaGREEN BOOKaBLUE BOOKaORANGE BOOKaBOOKS",
    "aNAME BADGEaSCROLLaMEMOaTELEPHONE RECEIVERaPAGERaFAX MACHINEaSATELLITE ANTENNA",
    "aPUBLIC ADDRESS LOUDSPEAKERaCHEERING MEGAPHONEaOUTBOX TRAYaINBOX TRAYaPACKAGE",
    "aE-MAIL SYMBOLaINCOMING ENVELOPEaENVELOPE WITH DOWNWARDS ARROW ABOVE",
    "aCLOSED MAILBOX WITH LOWERED FLAGuRAISED FLAGaOPEN MAILBOX WITH RAISED FLAGsLOWERED FLAG",
    "aPOSTBOXeAL HORNaNEWSPAPERaMOBILE PHONEm WITH RIGHTWARDS ARROW AT LEFTaVIBRATION MODE",
    "aMOBILE PHONE OFFaNO MOBILE PHONESaANTENNA WITH BARSaCAMERAg WITH FLASHaVIDEO CAMERA",
    "aTELEVISIONaRADIOaVIDEOCASSETTEaFILM PROJECTORaPORTABLE STEREObRAYER BEADS",
    "aTWISTED RIGHTWARDS ARROWSaCLOCKWISE RIGHTWARDS AND LEFTWARDS OPEN CIRCLE ARROWS",
    "zLEFTWARDS OPEN CIRCLE ARROWS WITH CIRCLED ONE OVERLAY",
    "kDOWNWARDS AND UPWARDS OPEN CIRCLE ARROWS",
    "aANTICLOCKWISE DOWNWARDS AND UPWARDS OPEN CIRCLE ARROWSaLOW BRIGHTNESS SYMBOL",
    "aHIGH BRIGHTNESS SYMBOLaSPEAKER WITH CANCELLATION STROKEhh WITH ONE SOUND WAVE",
    "nTHREE SOUND WAVESaBATTERYaELECTRIC PLUGaLEFT-POINTING MAGNIFYING GLASS",
    "aRIGHT-POINTING MAGNIFYING GLASSaLOCK WITH INK PENaCLOSED LOCK WITH KEYaKEYaLOCK",
    "aOPEN LOCKaBELLe WITH CANCELLATION STROKEbOOKMARKaLINK SYMBOLaRADIO BUTTON",
    "aBACK WITH LEFTWARDS ARROW ABOVEaEND WITH LEFTWARDS ARROW ABOVE",
    "aON WITH EXCLAMATION MARK WITH LEFT RIGHT ARROW ABOVEaSOON WITH RIGHTWARDS ARROW ABOVE",
    "aTOP WITH UPWARDS ARROW ABOVEaNO ONE UNDER EIGHTEEN SYMBOLaKEYCAP TEN",
    "aINPUT SYMBOL FOR LATIN CAPITAL LETTERSxSMALL LETTERSrNUMBERSrSYMBOLSrLATIN LETTERSaFIRE",
    "aELECTRIC TORCHaWRENCHaHAMMERaNUT AND BOLTaHOCHOaPISTOLaMICROSCOPEaTELESCOPEaCRYSTAL BALL",
    "aSIX POINTED STAR WITH MIDDLE DOTaJAPANESE SYMBOL FOR BEGINNERaTRIDENT EMBLEM",
    "aBLACK SQUARE BUTTONaWHITE SQUARE BUTTONaLARGE RED CIRCLEgBLUE CIRCLEgORANGE DIAMOND",
    "gBLUE DIAMONDaSMALL ORANGE DIAMONDgBLUE DIAMONDaUP-POINTING RED TRIANGLE",
    "aDOWN-POINTING RED TRIANGLEaUP-POINTING SMALL RED TRIANGLE",
    "aDOWN-POINTING SMALL RED TRIANGLEaLOWER RIGHT SHADOWED WHITE CIRCLE",
    "aUPPER RIGHT SHADOWED WHITE CIRCLEaCIRCLED CROSS POMMEE",
    "bROSS POMMEE WITH HALF-CIRCLE BELOWmaNOTCHED LEFT SEMICIRCLE WITH THREE DOTS",
    "iRIGHT SEMICIRCLE WITH THREE DOTSaSYMBOL FOR MARKS CHAPTERaWHITE LATIN CROSS",
    "aHEAVY LATIN CROSSaCELTIC CROSSaOM SYMBOLaDOVE OF PEACEaKAABAaMOSQUEaSYNAGOGUE",
    "aMENORAH WITH NINE BRANCHESaBOWL OF HYGIEIAaCLOCK FACE ONE OCLOCKlTWO OCLOCKmHREE OCLOCK",
    "lFOUR OCLOCKmIVE OCLOCKlSIX OCLOCKmEVEN OCLOCKlEIGHT OCLOCKlNINE OCLOCKlTEN OCLOCK",
    "lELEVEN OCLOCKlTWELVE OCLOCKlONE-THIRTYlTWO-THIRTYmHREE-THIRTYlFOUR-THIRTYmIVE-THIRTY",
    "lSIX-THIRTYmEVEN-THIRTYlEIGHT-THIRTYlNINE-THIRTYlTEN-THIRTYlELEVEN-THIRTYlTWELVE-THIRTY",
    "aRIGHT SPEAKERn WITH ONE SOUND WAVEtTHREE SOUND WAVESaBULLHORNi WITH SOUND WAVES",
    "aRINGING BELLaBOOKaCANDLEaMANTELPIECE CLOCKaBLACK SKULL AND CROSSBONESaNO PIRACYaHOLE",
    "aMAN IN BUSINESS SUIT LEVITATINGaSLEUTH OR SPYaDARK SUNGLASSESaSPIDERg WEBaJOYSTICK",
    "aMAN DANCINGaLEFT HAND TELEPHONE RECEIVERaTELEPHONE RECEIVER WITH PAGE",
    "aRIGHT HAND TELEPHONE RECEIVERaWHITE TOUCHTONE TELEPHONEaBLACK TOUCHTONE TELEPHONE",
    "aTELEPHONE ON TOP OF MODEMaCLAMSHELL MOBILE PHONEaBACK OF ENVELOPEaSTAMPED ENVELOPE",
    "aENVELOPE WITH LIGHTNINGaFLYING ENVELOPEaPEN OVER STAMPED ENVELOPEaLINKED PAPERCLIPS",
    "aBLACK PUSHPINaLOWER LEFT PENCILlBALLPOINT PENlFOUNTAIN PENlPAINTBRUSHlCRAYON",
    "bEFT WRITING HANDaTURNED OK HAND SIGNaRAISED HAND WITH FINGERS SPLAYED",
    "bEVERSED RAISED HAND WITH FINGERS SPLAYEDjTHUMBS UP SIGNqDOWN SIGNjVICTORY HAND",
    "jHAND WITH MIDDLE FINGER EXTENDEDbAISED HAND WITH PART BETWEEN MIDDLE AND RING FINGERS",
    "aWHITE DOWN POINTING LEFT HAND INDEXaSIDEWAYS WHITE LEFT POINTING INDEX",
    "pRIGHT POINTING INDEXjBLACK LEFT POINTING INDEXpRIGHT POINTING INDEX",
    "aBLACK LEFT POINTING BACKHAND INDEXgRIGHT POINTING BACKHAND INDEX",
    "aSIDEWAYS WHITE UP POINTING INDEXpDOWN POINTING INDEXjBLACK UP POINTING INDEX",
    "pDOWN POINTING INDEXaBLACK UP POINTING BACKHAND INDEXgDOWN POINTING BACKHAND INDEXgHEART",
    "aDESKTOP COMPUTERaKEYBOARD AND MOUSEaTHREE NETWORKED COMPUTERSaPRINTERbOCKET CALCULATOR",
    "aBLACK HARD SHELL FLOPPY DISKaWHITE HARD SHELL FLOPPY DISKaSOFT SHELL FLOPPY DISK",
    "aTAPE CARTRIDGEaWIRED KEYBOARDaONE BUTTON MOUSEaTWO BUTTON MOUSEbHREE BUTTON MOUSE",
    "bRACKBALLaOLD PERSONAL COMPUTERaHARD DISKaSCREENaPRINTER ICONaFAX ICONaOPTICAL DISC ICON",
    "aDOCUMENT WITH TEXTs AND PICTUREoPICTUREaFRAME WITH PICTURElTILESlAN XaBLACK FOLDER",
    "aFOLDERaOPEN FOLDERaCARD INDEX DIVIDERSfFILE BOXaFILE CABINETaEMPTY NOTEk PAGEnDaNOTE",
    "e PAGEhDaEMPTY DOCUMENTgPAGEkSaDOCUMENTaPAGEeSaWASTEBASKETaSPIRAL NOTE PADhCALENDAR PAD",
    "aDESKTOP WINDOWaMINIMIZEbAXIMIZEaOVERLAPaCLOCKWISE RIGHT AND LEFT SEMICIRCLE ARROWS",
    "bANCELLATION XaINCREASE FONT SIZE SYMBOLaDECREASE FONT SIZE SYMBOLaCOMPRESSIONaOLD KEY",
    "aROLLED-UP NEWSPAPERaPAGE WITH CIRCLED TEXTaSTOCK CHARTaDAGGER KNIFEaLIPS",
    "aSPEAKING HEAD IN SILHOUETTEaTHREE RAYS ABOVElBELOWlLEFTlRIGHTaLEFT SPEECH BUBBLE",
    "aRIGHT SPEECH BUBBLEaTWO SPEECH BUBBLESbHREE SPEECH BUBBLESaLEFT THOUGHT BUBBLE",
    "aRIGHT THOUGHT BUBBLEaLEFT ANGER BUBBLEaRIGHT ANGER BUBBLEaMOOD BUBBLE",
    "aLIGHTNING MOOD BUBBLEoaBALLOT BOX WITH BALLOThSCRIPT XhBOX WITH SCRIPT XjLD SCRIPT X",
    "jX WITH BOLD SCRIPT XaLIGHT CHECK MARKaBALLOT BOX WITH BOLD CHECKaWORLD MAPaMOUNT FUJI",
    "aTOKYO TOWERaSTATUE OF LIBERTYbILHOUETTE OF JAPANaMOYAIaGRINNING FACEn WITH SMILING EYES",
    "aFACE WITH TEARS OF JOYaSMILING FACE WITH OPEN MOUTHzUTH AND SMILING EYES",
    "zUTH AND COLD SWEATzUTH AND TIGHTLY-CLOSED EYESsHALOtORNSaWINKING FACE",
    "aSMILING FACE WITH SMILING EYESaFACE SAVOURING DELICIOUS FOODaRELIEVED FACE",
    "aSMILING FACE WITH HEART-SHAPED EYESsSUNGLASSESdRKING FACEaNEUTRAL FACE",
    "aEXPRESSIONLESS FACEaUNAMUSED FACEaFACE WITH COLD SWEATaPENSIVE FACEaCONFUSED FACE",
    "eOUNDED FACEaKISSING FACEaFACE THROWING A KISSaKISSING FACE WITH SMILING EYESsCLOSED EYES",
    "aFACE WITH STUCK-OUT TONGUEzE AND WINKING EYEzE AND TIGHTLY-CLOSED EYESaDISAPPOINTED FACE",
    "aWORRIED FACEaANGRY FACEaPOUTING FACEaCRYING FACEaPERSEVERING FACE",
    "aFACE WITH LOOK OF TRIUMPHaDISAPPOINTED BUT RELIEVED FACEaFROWNING FACE WITH OPEN MOUTH",
    "aANGUISHED FACEaFEARFUL FACEaWEARY FACEaSLEEPY FACEaTIRED FACEaGRIMACING FACE",
    "aLOUDLY CRYING FACEaFACE WITH OPEN MOUTHaHUSHED FACEaFACE WITH OPEN MOUTH AND COLD SWEAT",
    "fSCREAMING IN FEARaASTONISHED FACEaFLUSHED FACEaSLEEPING FACEaDIZZY FACE",
    "aFACE WITHOUT MOUTHj MEDICAL MASKaGRINNING CAT FACE WITH SMILING EYES",
    "aCAT FACE WITH TEARS OF JOYaSMILING CAT FACE WITH OPEN MOUTHwHEART-SHAPED EYES",
    "aCAT FACE WITH WRY SMILEaKISSING CAT FACE WITH CLOSED EYESaPOUTING CAT FACE",
    "aCRYING CAT FACEaWEARY CAT FACEaSLIGHTLY FROWNING FACEjSMILING FACEaUPSIDE-DOWN FACE",
    "aFACE WITH ROLLING EYESkNO GOOD GESTUREkOK GESTUREaPERSON BOWING DEEPLY",
    "aSEE-NO-EVIL MONKEYaHEAR-NO-EVIL MONKEYaSPEAK-NO-EVIL MONKEY",
    "aHAPPY PERSON RAISING ONE HANDaPERSON RAISING BOTH HANDS IN CELEBRATIONhFROWNING",
    "hWITH POUTING FACEmFOLDED HANDSaNORTH WEST POINTING LEAFaSOUTH WEST POINTING LEAF",
    "aNORTH EAST POINTING LEAFaSOUTH EAST POINTING LEAFaTURNED NORTH WEST POINTING LEAF",
    "hSOUTH WEST POINTING LEAFhNORTH EAST POINTING LEAFhSOUTH EAST POINTING LEAF",
    "aNORTH WEST POINTING VINE LEAFaSOUTH WEST POINTING VINE LEAF",
    "aNORTH EAST POINTING VINE LEAFaSOUTH EAST POINTING VINE LEAF",
    "aHEAVY NORTH WEST POINTING VINE LEAFgSOUTH WEST POINTING VINE LEAF",
    "gNORTH EAST POINTING VINE LEAFgSOUTH EAST POINTING VINE LEAFaNORTH WEST POINTING BUD",
    "aSOUTH WEST POINTING BUDaNORTH EAST POINTING BUDaSOUTH EAST POINTING BUD",
    "aHEAVY NORTH WEST POINTING BUDgSOUTH WEST POINTING BUDgNORTH EAST POINTING BUD",
    "gSOUTH EAST POINTING BUDbOLLOW QUILT SQUARE ORNAMENTzENT IN BLACK SQUARE",
    "aSOLID QUILT SQUARE ORNAMENTzNT IN BLACK SQUAREaLEFTWARDS ROCKETaUPWARDS ROCKET",
    "aRIGHTWARDS ROCKETaDOWNWARDS ROCKETaSCRIPT LIGATURE ET ORNAMENT",
    "aHEAVY SCRIPT LIGATURE ET ORNAMENTaLIGATURE OPEN ET ORNAMENT",
    "aHEAVY LIGATURE OPEN ET ORNAMENTgAMPERSAND ORNAMENTaSWASH AMPERSAND ORNAMENT",
    "bANS-SERIF HEAVY DOUBLE TURNED COMMA QUOTATION MARK ORNAMENT",
    "yCOMMA QUOTATION MARK ORNAMENTrLOW DOUBLE COMMA QUOTATION MARK ORNAMENT",
    "aHEAVY INTERROBANG ORNAMENTaSANS-SERIF INTERROBANG ORNAMENT",
    "aHEAVY SANS-SERIF INTERROBANG ORNAMENTaVERY HEAVY SOLIDUSlREVERSE SOLIDUSaCHECKER BOARD",
    "aREVERSE CHECKER BOARDbOCKETaHELICOPTERaSTEAM LOCOMOTIVEaRAILWAY CARaHIGH-SPEED TRAIN",
    "q WITH BULLET NOSEaTRAINaMETROaLIGHT RAILaSTATIONaTRAMe CARaBUSaONCOMING BUSaTROLLEYBUS",
    "aBUS STOPaMINIBUSaAMBULANCEaFIRE ENGINEaPOLICE CARaONCOMING POLICE CARaTAXIaONCOMING TAXI",
    "aAUTOMOBILEaONCOMING AUTOMOBILEaRECREATIONAL VEHICLEaDELIVERY TRUCKaARTICULATED LORRY",
    "aTRACTORaMONORAILcUNTAIN RAILWAYaSUSPENSION RAILWAYaMOUNTAIN CABLEWAYaAERIAL TRAMWAYaSHIP",
    "aROWBOATaSPEEDBOATaHORIZONTAL TRAFFIC LIGHTaVERTICAL TRAFFIC LIGHTaCONSTRUCTION SIGN",
    "aPOLICE CARS REVOLVING LIGHTaTRIANGULAR FLAG ON POSTaDOORaNO ENTRY SIGNaSMOKING SYMBOL",
    "aNO SMOKING SYMBOLaPUT LITTER IN ITS PLACE SYMBOLaDO NOT LITTER SYMBOL",
    "aPOTABLE WATER SYMBOLaNON-POTABLE WATER SYMBOLaBICYCLEaNO BICYCLESaBICYCLIST",
    "aMOUNTAIN BICYCLISTaPEDESTRIANaNO PEDESTRIANSaCHILDREN CROSSINGaMENS SYMBOLaWOMENS SYMBOL",
    "aRESTROOMaBABY SYMBOLaTOILETaWATER CLOSETaSHOWERaBATHeTUBaPASSPORT CONTROLaCUSTOMS",
    "aBAGGAGE CLAIMaLEFT LUGGAGEaTRIANGLE WITH ROUNDED CORNERSaPROHIBITED SIGN",
    "aCIRCLED INFORMATION SOURCEaBOYS SYMBOLaGIRLS SYMBOLaCOUCH AND LAMP",
    "aSLEEPING ACCOMMODATIONbHOPPING BAGSaBELLHOP BELLcDaPLACE OF WORSHIPaOCTAGONAL SIGN",
    "aSHOPPING TROLLEYbTUPAaPAGODAaHINDU TEMPLEbUTaELEVATOR"]⟩,
  ⟨128733, ["aPLAYGROUND SLIDEaWHEELaRING BUOYaHAMMER AND WRENCHaSHIELDaOIL DRUMaMOTORWAY",
    "aRAILWAY TRACKaMOTOR BOATaUP-POINTING MILITARY AIRPLANEmAIRPLANEmSMALL AIRPLANE",
    "aSMALL AIRPLANEaNORTHEAST-POINTING AIRPLANEaAIRPLANE DEPARTUREjARRIVING"]⟩,
  ⟨128752, ["aSATELLITEaONCOMING FIRE ENGINEaDIESEL LOCOMOTIVEaPASSENGER SHIPaSCOOTER",
    "aMOTOR SCOOTERaCANOEaSLEDaFLYING SAUCERaSKATEBOARDaAUTO RICKSHAWaPICKUP TRUCK",
    "aROLLER SKATE"]⟩,
  ⟨128768, ["aALCHEMICAL SYMBOL FOR QUINTESSENCEwAIRwFIREwEARTHwWATERwAQUAFORTISzA REGIA",
    "zA REGIA-2zA VITAEzA VITAE-2wVINEGARzEGAR-2zEGAR-3wSULFURwPHILOSOPHERS SULFUR",
    "wBLACK SULFURwMERCURY SUBLIMATEzCURY SUBLIMATE-2zCURY SUBLIMATE-3wCINNABARwSALTwNITRE",
    "wVITRIOLzRIOL-2wROCK SALTzK SALT-2wGOLDwSILVERwIRON OREzN ORE-2wCROCUS OF IRON",
    "wREGULUS OF IRONwCOPPER OREwIRON-COPPER OREwSUBLIMATE OF COPPERwCROCUS OF COPPER",
    "zCUS OF COPPER-2xOPPER ANTIMONIATEwSALT OF COPPER ANTIMONIATExUBLIMATE OF SALT OF COPPER",
    "wVERDIGRISwTIN OREwLEAD OREwANTIMONY OREwSUBLIMATE OF ANTIMONYxALT OF ANTIMONY",
    "xUBLIMATE OF SALT OF ANTIMONYwVINEGAR OF ANTIMONYwREGULUS OF ANTIMONYzULUS OF ANTIMONY-2",
    "zULUSzULUS-2zULUS-3zULUS-4wALKALIzALI-2wMARCASITEwSAL-AMMONIACwARSENICwREALGARzLGAR-2",
    "wAURIPIGMENTwBISMUTH OREwTARTARzTAR-2wQUICK LIMEwBORAXzAX-2zAX-3wALUMwOILwSPIRITwTINCTURE",
    "wGUMwWAXwPOWDERwCALXwTUTTYwCAPUT MORTUUMwSCEPTER OF JOVEwCADUCEUSwTRIDENTwSTARRED TRIDENT",
    "wLODESTONEwSOAPwURINEwHORSE DUNGwASHESwPOT ASHESwBRICKwPOWDERED BRICKwAMALGAM",
    "wSTRATUM SUPER STRATUMzATUM SUPER STRATUM-2xUBLIMATIONwPRECIPITATEwDISTILLzSOLVEzSOLVE-2",
    "wPURIFYyTREFACTIONwCRUCIBLEzCIBLE-2zCIBLE-3zCIBLE-4zCIBLE-5wALEMBICwBATH OF MARY",
    "zH OF VAPOURSwRETORTwHOURwNIGHTwDAY-NIGHTwMONTHwHALF DRAMzF OUNCE"]⟩,
  ⟨128896, ["aBLACK LEFT-POINTING ISOSCELES RIGHT TRIANGLE",
    "gUP-POINTING ISOSCELES RIGHT TRIANGLEgRIGHT-POINTING ISOSCELES RIGHT TRIANGLE",
    "gDOWN-POINTING ISOSCELES RIGHT TRIANGLEgSLIGHTLY SMALL CIRCLEaMEDIUM BOLD WHITE CIRCLE",
    "aBOLD WHITE CIRCLEaHEAVY WHITE CIRCLEaVERY HEAVY WHITE CIRCLE",
    "aEXTREMELY HEAVY WHITE CIRCLEaWHITE CIRCLE CONTAINING BLACK SMALL CIRCLEaROUND TARGET",
    "aBLACK TINY SQUAREgSLIGHTLY SMALL SQUAREaLIGHT WHITE SQUAREaMEDIUM WHITE SQUARE",
    "aBOLD WHITE SQUAREaHEAVY WHITE SQUAREaVERY HEAVY WHITE SQUARE",
    "aEXTREMELY HEAVY WHITE SQUAREaWHITE SQUARE CONTAINING BLACK VERY SMALL SQUARE",
    "zLACK MEDIUM SQUAREaSQUARE TARGETaBLACK TINY DIAMONDgVERY SMALL DIAMOND",
    "gMEDIUM SMALL DIAMONDaWHITE DIAMOND CONTAINING BLACK VERY SMALL DIAMOND",
    "zBLACK MEDIUM DIAMONDaDIAMOND TARGETaBLACK TINY LOZENGEgVERY SMALL LOZENGE",
    "gMEDIUM SMALL LOZENGEaWHITE LOZENGE CONTAINING BLACK SMALL LOZENGEaTHIN GREEK CROSS",
    "aLIGHT GREEK CROSSaMEDIUM GREEK CROSSaBOLD GREEK CROSSaVERY BOLD GREEK CROSS",
    "fHEAVY GREEK CROSSaEXTREMELY HEAVY GREEK CROSSaTHIN SALTIREaLIGHT SALTIREaMEDIUM SALTIRE",
    "aBOLD SALTIREaHEAVY SALTIREaVERY HEAVY SALTIREaEXTREMELY HEAVY SALTIRE",
    "aLIGHT FIVE SPOKED ASTERISKaMEDIUM FIVE SPOKED ASTERISKaBOLD FIVE SPOKED ASTERISK",
    "aHEAVY FIVE SPOKED ASTERISKaVERY HEAVY FIVE SPOKED ASTERISK",
    "aEXTREMELY HEAVY FIVE SPOKED ASTERISKaLIGHT SIX SPOKED ASTERISK",
    "aMEDIUM SIX SPOKED ASTERISKaBOLD SIX SPOKED ASTERISKaHEAVY SIX SPOKED ASTERISK",
    "aVERY HEAVY SIX SPOKED ASTERISKaEXTREMELY HEAVY SIX SPOKED ASTERISK",
    "aLIGHT EIGHT SPOKED ASTERISKaMEDIUM EIGHT SPOKED ASTERISKaBOLD EIGHT SPOKED ASTERISK",
    "aHEAVY EIGHT SPOKED ASTERISKaVERY HEAVY EIGHT SPOKED ASTERISK",
    "aLIGHT THREE POINTED BLACK STARaMEDIUM THREE POINTED BLACK STARaTHREE POINTED BLACK STAR",
    "aMEDIUM THREE POINTED PINWHEEL STARaLIGHT FOUR POINTED BLACK STAR",
    "aMEDIUM FOUR POINTED BLACK STARaFOUR POINTED BLACK STARaMEDIUM FOUR POINTED PINWHEEL STAR",
    "aREVERSE LIGHT FOUR POINTED PINWHEEL STARaLIGHT FIVE POINTED BLACK STAR",
    "aHEAVY FIVE POINTED BLACK STARaMEDIUM SIX POINTED BLACK STARaHEAVY SIX POINTED BLACK STAR",
    "aSIX POINTED PINWHEEL STARaMEDIUM EIGHT POINTED BLACK STARaHEAVY EIGHT POINTED BLACK STAR",
    "aVERY HEAVY EIGHT POINTED BLACK STARaHEAVY EIGHT POINTED PINWHEEL STAR",
    "aLIGHT TWELVE POINTED BLACK STARaHEAVY TWELVE POINTED BLACK STARvPINWHEEL STAR",
    "aCIRCLED TRIANGLEaNEGATIVE CIRCLED TRIANGLEaCIRCLED SQUAREaNEGATIVE CIRCLED SQUARE"]⟩,
  ⟨128992, ["aLARGE ORANGE CIRCLEgYELLOW CIRCLEgGREEN CIRCLEgPURPLE CIRCLEgBROWN CIRCLE",
    "gRED SQUAREgBLUE SQUAREgORANGE SQUAREgYELLOW SQUAREgGREEN SQUAREgPURPLE SQUARE",
    "gBROWN SQUARE"]⟩,
  ⟨129008, ["aHEAVY EQUALS SIGN"]⟩,
  ⟨129024, ["aLEFTWARDS ARROW WITH SMALL TRIANGLE ARROWHEAD",
    "aUPWARDS ARROW WITH SMALL TRIANGLE ARROWHEAD",
    "aRIGHTWARDS ARROW WITH SMALL TRIANGLE ARROWHEAD",
    "aDOWNWARDS ARROW WITH SMALL TRIANGLE ARROWHEAD",
    "aLEFTWARDS ARROW WITH MEDIUM TRIANGLE ARROWHEAD",
    "aUPWARDS ARROW WITH MEDIUM TRIANGLE ARROWHEAD",
    "aRIGHTWARDS ARROW WITH MEDIUM TRIANGLE ARROWHEAD",
    "aDOWNWARDS ARROW WITH MEDIUM TRIANGLE ARROWHEAD",
    "aLEFTWARDS ARROW WITH LARGE TRIANGLE ARROWHEAD",
    "aUPWARDS ARROW WITH LARGE TRIANGLE ARROWHEAD",
    "aRIGHTWARDS ARROW WITH LARGE TRIANGLE ARROWHEAD",
    "aDOWNWARDS ARROW WITH LARGE TRIANGLE ARROWHEAD"]⟩,
  ⟨129040, ["aLEFTWARDS ARROW WITH SMALL EQUILATERAL ARROWHEAD",
    "aUPWARDS ARROW WITH SMALL EQUILATERAL ARROWHEAD",
    "aRIGHTWARDS ARROW WITH SMALL EQUILATERAL ARROWHEAD",
    "aDOWNWARDS ARROW WITH SMALL EQUILATERAL ARROWHEAD",
    "aLEFTWARDS ARROW WITH EQUILATERAL ARROWHEADaUPWARDS ARROW WITH EQUILATERAL ARROWHEAD",
    "aRIGHTWARDS ARROW WITH EQUILATERAL ARROWHEADaDOWNWARDS ARROW WITH EQUILATERAL ARROWHEAD",
    "aHEAVY LEFTWARDS ARROW WITH EQUILATERAL ARROWHEAD",
    "gUPWARDS ARROW WITH EQUILATERAL ARROWHEADgRIGHTWARDS ARROW WITH EQUILATERAL ARROWHEAD",
    "gDOWNWARDS ARROW WITH EQUILATERAL ARROWHEAD",
    "gLEFTWARDS ARROW WITH LARGE EQUILATERAL ARROWHEAD",
    "gUPWARDS ARROW WITH LARGE EQUILATERAL ARROWHEAD",
    "gRIGHTWARDS ARROW WITH LARGE EQUILATERAL ARROWHEAD",
    "gDOWNWARDS ARROW WITH LARGE EQUILATERAL ARROWHEAD",
    "aLEFTWARDS TRIANGLE-HEADED ARROW WITH NARROW SHAFT",
    "aUPWARDS TRIANGLE-HEADED ARROW WITH NARROW SHAFT",
    "aRIGHTWARDS TRIANGLE-HEADED ARROW WITH NARROW SHAFT",
    "aDOWNWARDS TRIANGLE-HEADED ARROW WITH NARROW SHAFT",
    "aLEFTWARDS TRIANGLE-HEADED ARROW WITH MEDIUM SHAFT",
    "aUPWARDS TRIANGLE-HEADED ARROW WITH MEDIUM SHAFT",
    "aRIGHTWARDS TRIANGLE-HEADED ARROW WITH MEDIUM SHAFT",
    "aDOWNWARDS TRIANGLE-HEADED ARROW WITH MEDIUM SHAFT",
    "aLEFTWARDS TRIANGLE-HEADED ARROW WITH BOLD SHAFT",
    "aUPWARDS TRIANGLE-HEADED ARROW WITH BOLD SHAFT",
    "aRIGHTWARDS TRIANGLE-HEADED ARROW WITH BOLD SHAFT",
    "aDOWNWARDS TRIANGLE-HEADED ARROW WITH BOLD SHAFT",
    "aLEFTWARDS TRIANGLE-HEADED ARROW WITH HEAVY SHAFT",
    "aUPWARDS TRIANGLE-HEADED ARROW WITH HEAVY SHAFT",
    "aRIGHTWARDS TRIANGLE-HEADED ARROW WITH HEAVY SHAFT",
    "aDOWNWARDS TRIANGLE-HEADED ARROW WITH HEAVY SHAFT",
    "aLEFTWARDS TRIANGLE-HEADED ARROW WITH VERY HEAVY SHAFT",
    "aUPWARDS TRIANGLE-HEADED ARROW WITH VERY HEAVY SHAFT",
    "aRIGHTWARDS TRIANGLE-HEADED ARROW WITH VERY HEAVY SHAFT",
    "aDOWNWARDS TRIANGLE-HEADED ARROW WITH VERY HEAVY SHAFTaLEFTWARDS FINGER-POST ARROW",
    "aUPWARDS FINGER-POST ARROWaRIGHTWARDS FINGER-POST ARROWaDOWNWARDS FINGER-POST ARROW",
    "aLEFTWARDS SQUARED ARROWaUPWARDS SQUARED ARROWaRIGHTWARDS SQUARED ARROW",
    "aDOWNWARDS SQUARED ARROWaLEFTWARDS COMPRESSED ARROWaUPWARDS COMPRESSED ARROW",
    "aRIGHTWARDS COMPRESSED ARROWaDOWNWARDS COMPRESSED ARROWaLEFTWARDS HEAVY COMPRESSED ARROW",
    "aUPWARDS HEAVY COMPRESSED ARROWaRIGHTWARDS HEAVY COMPRESSED ARROW",
    "aDOWNWARDS HEAVY COMPRESSED ARROWaLEFTWARDS HEAVY ARROWaUPWARDS HEAVY ARROW",
    "aRIGHTWARDS HEAVY ARROWaDOWNWARDS HEAVY ARROW"]⟩,
  ⟨129104, ["aLEFTWARDS SANS-SERIF ARROWaUPWARDS SANS-SERIF ARROWaRIGHTWARDS SANS-SERIF ARROW",
    "aDOWNWARDS SANS-SERIF ARROWaNORTH WEST SANS-SERIF ARROWgEAST SANS-SERIF ARROW",
    "aSOUTH EAST SANS-SERIF ARROWgWEST SANS-SERIF ARROWaLEFT RIGHT SANS-SERIF ARROW",
    "aUP DOWN SANS-SERIF ARROW"]⟩,
  ⟨129120, ["aWIDE-HEADED LEFTWARDS LIGHT BARB ARROWmUPWARDS LIGHT BARB ARROW",
    "mRIGHTWARDS LIGHT BARB ARROWmDOWNWARDS LIGHT BARB ARROWmNORTH WEST LIGHT BARB ARROW",
    "sEAST LIGHT BARB ARROWmSOUTH EAST LIGHT BARB ARROWsWEST LIGHT BARB ARROW",
    "mLEFTWARDS BARB ARROWmUPWARDS BARB ARROWmRIGHTWARDS BARB ARROWmDOWNWARDS BARB ARROW",
    "mNORTH WEST BARB ARROWsEAST BARB ARROWmSOUTH EAST BARB ARROWsWEST BARB ARROW",
    "mLEFTWARDS MEDIUM BARB ARROWmUPWARDS MEDIUM BARB ARROWmRIGHTWARDS MEDIUM BARB ARROW",
    "mDOWNWARDS MEDIUM BARB ARROWmNORTH WEST MEDIUM BARB ARROWsEAST MEDIUM BARB ARROW",
    "mSOUTH EAST MEDIUM BARB ARROWsWEST MEDIUM BARB ARROWmLEFTWARDS HEAVY BARB ARROW",
    "mUPWARDS HEAVY BARB ARROWmRIGHTWARDS HEAVY BARB ARROWmDOWNWARDS HEAVY BARB ARROW",
    "mNORTH WEST HEAVY BARB ARROWsEAST HEAVY BARB ARROWmSOUTH EAST HEAVY BARB ARROW",
    "sWEST HEAVY BARB ARROWmLEFTWARDS VERY HEAVY BARB ARROWmUPWARDS VERY HEAVY BARB ARROW",
    "mRIGHTWARDS VERY HEAVY BARB ARROWmDOWNWARDS VERY HEAVY BARB ARROW",
    "mNORTH WEST VERY HEAVY BARB ARROWsEAST VERY HEAVY BARB ARROW",
    "mSOUTH EAST VERY HEAVY BARB ARROWsWEST VERY HEAVY BARB ARROW"]⟩,
  ⟨129168, ["aLEFTWARDS TRIANGLE ARROWHEADaUPWARDS TRIANGLE ARROWHEAD",
    "aRIGHTWARDS TRIANGLE ARROWHEADaDOWNWARDS TRIANGLE ARROWHEAD",
    "aLEFTWARDS WHITE ARROW WITHIN TRIANGLE ARROWHEAD",
    "aUPWARDS WHITE ARROW WITHIN TRIANGLE ARROWHEAD",
    "aRIGHTWARDS WHITE ARROW WITHIN TRIANGLE ARROWHEAD",
    "aDOWNWARDS WHITE ARROW WITHIN TRIANGLE ARROWHEADaLEFTWARDS ARROW WITH NOTCHED TAIL",
    "aUPWARDS ARROW WITH NOTCHED TAILaRIGHTWARDS ARROW WITH NOTCHED TAIL",
    "aDOWNWARDS ARROW WITH NOTCHED TAILaHEAVY ARROW SHAFT WIDTH ONEyTWO THIRDSyONE HALF",
    "zNE THIRDaLEFTWARDS BOTTOM-SHADED WHITE ARROWaRIGHTWARDS BOTTOM SHADED WHITE ARROW",
    "aLEFTWARDS TOP SHADED WHITE ARROWaRIGHTWARDS TOP SHADED WHITE ARROW",
    "aLEFTWARDS LEFT-SHADED WHITE ARROWaRIGHTWARDS RIGHT-SHADED WHITE ARROW",
    "aLEFTWARDS RIGHT-SHADED WHITE ARROWaRIGHTWARDS LEFT-SHADED WHITE ARROW",
    "aLEFTWARDS BACK-TILTED SHADOWED WHITE ARROWaRIGHTWARDS BACK-TILTED SHADOWED WHITE ARROW",
    "aLEFTWARDS FRONT-TILTED SHADOWED WHITE ARROWaRIGHTWARDS FRONT-TILTED SHADOWED WHITE ARROW",
    "aWHITE ARROW SHAFT WIDTH ONEyTWO THIRDS"]⟩,
  ⟨129200, ["aARROW POINTING UPWARDS THEN NORTH WESTpRIGHTWARDS THEN CURVING SOUTH WEST"]⟩,
  ⟨129280, ["aCIRCLED CROSS FORMEE WITH FOUR DOTSz TWO DOTSuaLEFT HALF CIRCLE WITH FOUR DOTS",
    "wTHREE DOTSxWO DOTSwDOTqaDOWNWARD FACING HOOKqNOTCHED HOOKqHOOK WITH DOT",
    "qNOTCHED HOOK WITH DOTaPINCHED FINGERSaWHITE HEARTaBROWN HEARTaPINCHING HAND",
    "aZIPPER-MOUTH FACEaMONEY-MOUTH FACEaFACE WITH THERMOMETERaNERD FACEaTHINKING FACE",
    "aFACE WITH HEAD-BANDAGEaROBOT FACEaHUGGING FACEaSIGN OF THE HORNSaCALL ME HAND",
    "aRAISED BACK OF HANDaLEFT-FACING FISTaRIGHT-FACING FISTaHANDSHAKE",
    "e WITH INDEX AND MIDDLE FINGERS CROSSEDaI LOVE YOU HAND SIGNaFACE WITH COWBOY HAT",
    "aCLOWN FACEaNAUSEATED FACEaROLLING ON THE FLOOR LAUGHINGaDROOLING FACEaLYING FACE",
    "aFACE PALMaSNEEZING FACEaFACE WITH ONE EYEBROW RAISEDaGRINNING FACE WITH STAR EYES",
    "tONE LARGE AND ONE SMALL EYEaFACE WITH FINGER COVERING CLOSED LIPS",
    "aSERIOUS FACE WITH SYMBOLS COVERING MOUTH",
    "bMILING FACE WITH SMILING EYES AND HAND COVERING MOUTHaFACE WITH OPEN MOUTH VOMITING",
    "aSHOCKED FACE WITH EXPLODING HEADaPREGNANT WOMANaBREAST-FEEDINGaPALMS UP TOGETHERaSELFIE",
    "aPRINCEaMAN IN TUXEDObOTHER CHRISTMASaSHRUGaPERSON DOING CARTWHEELaJUGGLINGaFENCER",
    "aMODERN PENTATHLONaWRESTLERSbATER POLOaHANDBALLaDIVING MASKaWILTED FLOWER",
    "aDRUM WITH DRUMSTICKSaCLINKING GLASSESaTUMBLER GLASSaSPOONaGOAL NETaRIFLE",
    "aFIRST PLACE MEDALaSECOND PLACE MEDALaTHIRD PLACE MEDALaBOXING GLOVEaMARTIAL ARTS UNIFORM",
    "aCURLING STONEaLACROSSE STICK AND BALLaSOFTBALLaFLYING DISCaCROISSANTaAVOCADOaCUCUMBER",
    "aBACONaPOTATOaCARROTaBAGUETTE BREADaGREEN SALADaSHALLOW PAN OF FOODbTUFFED FLATBREADaEGG",
    "aGLASS OF MILKaPEANUTSaKIWIFRUITaPANCAKESaDUMPLINGaFORTUNE COOKIEaTAKEOUT BOXaCHOPSTICKS",
    "aBOWL WITH SPOONaCUP WITH STRAWbOCONUTaBROCCOLIaPIEbRETZELaCUT OF MEATaSANDWICH",
    "aCANNED FOODaLEAFY GREENaMANGObOON CAKEaBAGEL",
    "aSMILING FACE WITH SMILING EYES AND THREE HEARTSaYAWNING FACEaSMILING FACE WITH TEAR",
    "aFACE WITH PARTY HORN AND PARTY HATkUNEVEN EYES AND WAVY MOUTHaOVERHEATED FACE",
    "aFREEZING FACEaNINJAaDISGUISED FACEaFACE HOLDING BACK TEARSfWITH PLEADING EYESaSARI",
    "aLAB COATaGOGGLESaHIKING BOOTaFLAT SHOEaCRABaLION FACEaSCORPIONaTURKEYaUNICORN FACEaEAGLE",
    "aDUCKaBATaSHARKaOWLaFOX FACEaBUTTERFLYaDEERaGORILLAaLIZARDaRHINOCEROSaSHRIMPbQUID",
    "aGIRAFFE FACEaZEBRA FACEaHEDGEHOGaSAUROPODaT-REXaCRICKETaKANGAROOaLLAMAaPEACOCK",
    "aHIPPOPOTAMUSaPARROTaRACCOONaLOBSTERaMOSQUITObICROBEaBADGERaSWANaMAMMOTHaDODOaSLOTHaOTTER",
    "bRANGUTANaSKUNKaFLAMINGOaOYSTERaBEAVERbISONaSEALaGUIDE DOGaPROBING CANE",
    "aEMOJI COMPONENT RED HAIRqCURLY HAIRqBALDqWHITE HAIRaBONEaLEGaFOOTaTOOTHaSUPERHERO",
    "fVILLAINbAFETY VESTaEAR WITH HEARING AIDaMOTORIZED WHEELCHAIRbANUAL WHEELCHAIR",
    "bECHANICAL ARMlLEGaCHEESE WEDGEbUPCAKEaSALT SHAKERaBEVERAGE BOXaGARLICaONIONaFALAFEL",
    "aWAFFLEaBUTTERaMATE DRINKaICE CUBEaBUBBLE TEAaTROLLaSTANDING PERSONaKNEELING PERSON",
    "aDEAF PERSONaFACE WITH MONOCLEaADULTaCHILDaOLDER ADULTaBEARDED PERSON",
    "aPERSON WITH HEADSCARFhIN STEAMY ROOMhCLIMBINGhIN LOTUS POSITIONaMAGEaFAIRYaVAMPIRE",
    "aMERPERSONaELFaGENIEaZOMBIEaBRAINaORANGE HEARTaBILLED CAPaSCARFaGLOVESaCOATaSOCKS",
    "aRED GIFT ENVELOPEaFIRECRACKERaJIGSAW PUZZLE PIECEaTEST TUBEaPETRI DISHaDNA DOUBLE HELIX",
    "aCOMPASSaABACUSaFIRE EXTINGUISHERaTOOLBOXaBRICKaMAGNETaLUGGAGEbOTION BOTTLE",
    "aSPOOL OF THREADaBALL OF YARNaSAFETY PINaTEDDY BEARaBROOMbASKETaROLL OF PAPERaBAR OF SOAP",
    "aSPONGEaRECEIPTaNAZAR AMULETbEUTRAL CHESS KINGoQUEENoROOKoBISHOPoKNIGHToPAWN",
    "aWHITE CHESS KNIGHT ROTATED FORTY-FIVE DEGREES",
    "aBLACK CHESS KNIGHT ROTATED FORTY-FIVE DEGREES",
    "aNEUTRAL CHESS KNIGHT ROTATED FORTY-FIVE DEGREESaWHITE CHESS KING ROTATED NINETY DEGREES",
    "mQUEEN ROTATED NINETY DEGREESmROOK ROTATED NINETY DEGREESmBISHOP ROTATED NINETY DEGREES",
    "mKNIGHT ROTATED NINETY DEGREESmPAWN ROTATED NINETY DEGREES",
    "aBLACK CHESS KING ROTATED NINETY DEGREESmQUEEN ROTATED NINETY DEGREES",
    "mROOK ROTATED NINETY DEGREESmBISHOP ROTATED NINETY DEGREESmKNIGHT ROTATED NINETY DEGREES",
    "mPAWN ROTATED NINETY DEGREESaNEUTRAL CHESS KING ROTATED NINETY DEGREES",
    "oQUEEN ROTATED NINETY DEGREESoROOK ROTATED NINETY DEGREESoBISHOP ROTATED NINETY DEGREES",
    "oKNIGHT ROTATED NINETY DEGREESoPAWN ROTATED NINETY DEGREES",
    "aWHITE CHESS KNIGHT ROTATED ONE HUNDRED THIRTY-FIVE DEGREES",
    "aBLACK CHESS KNIGHT ROTATED ONE HUNDRED THIRTY-FIVE DEGREES",
    "aNEUTRAL CHESS KNIGHT ROTATED ONE HUNDRED THIRTY-FIVE DEGREESaWHITE CHESS TURNED KING",
    "tQUEENtROOKtBISHOPtKNIGHTtPAWNaBLACK CHESS TURNED KINGtQUEENtROOKtBISHOPtKNIGHTtPAWN",
    "aNEUTRAL CHESS TURNED KINGvQUEENvROOKvBISHOPvKNIGHTvPAWN",
    "aWHITE CHESS KNIGHT ROTATED TWO HUNDRED TWENTY-FIVE DEGREES",
    "aBLACK CHESS KNIGHT ROTATED TWO HUNDRED TWENTY-FIVE DEGREES",
    "aNEUTRAL CHESS KNIGHT ROTATED TWO HUNDRED TWENTY-FIVE DEGREES",
    "aWHITE CHESS KING ROTATED TWO HUNDRED SEVENTY DEGREES",
    "mQUEEN ROTATED TWO HUNDRED SEVENTY DEGREESmROOK ROTATED TWO HUNDRED SEVENTY DEGREES",
    "mBISHOP ROTATED TWO HUNDRED SEVENTY DEGREESmKNIGHT ROTATED TWO HUNDRED SEVENTY DEGREES",
    "mPAWN ROTATED TWO HUNDRED SEVENTY DEGREES",
    "aBLACK CHESS KING ROTATED TWO HUNDRED SEVENTY DEGREES",
    "mQUEEN ROTATED TWO HUNDRED SEVENTY DEGREESmROOK ROTATED TWO HUNDRED SEVENTY DEGREES",
    "mBISHOP ROTATED TWO HUNDRED SEVENTY DEGREESmKNIGHT ROTATED TWO HUNDRED SEVENTY DEGREES",
    "mPAWN ROTATED TWO HUNDRED SEVENTY DEGREES",
    "aNEUTRAL CHESS KING ROTATED TWO HUNDRED SEVENTY DEGREES",
    "oQUEEN ROTATED TWO HUNDRED SEVENTY DEGREESoROOK ROTATED TWO HUNDRED SEVENTY DEGREES",
    "oBISHOP ROTATED TWO HUNDRED SEVENTY DEGREESoKNIGHT ROTATED TWO HUNDRED SEVENTY DEGREES",
    "oPAWN ROTATED TWO HUNDRED SEVENTY DEGREES",
    "aWHITE CHESS KNIGHT ROTATED THREE HUNDRED FIFTEEN DEGREES",
    "aBLACK CHESS KNIGHT ROTATED THREE HUNDRED FIFTEEN DEGREES",
    "aNEUTRAL CHESS KNIGHT ROTATED THREE HUNDRED FIFTEEN DEGREESaWHITE CHESS EQUIHOPPER",
    "aBLACK CHESS EQUIHOPPERaNEUTRAL CHESS EQUIHOPPER",
    "aWHITE CHESS EQUIHOPPER ROTATED NINETY DEGREES",
    "aBLACK CHESS EQUIHOPPER ROTATED NINETY DEGREES",
    "aNEUTRAL CHESS EQUIHOPPER ROTATED NINETY DEGREESaWHITE CHESS KNIGHT-QUEENtROOKtBISHOP",
    "aBLACK CHESS KNIGHT-QUEENtROOKtBISHOP"]⟩,
  ⟨129632, ["aXIANGQI RED GENERALmMANDARINmELEPHANTmHORSEmCHARIOTnANNONmSOLDIERiBLACK GENERAL",
    "oMANDARINoELEPHANToHORSEoCHARIOTpANNONoSOLDIER"]⟩,
  ⟨129648, ["aBALLET SHOESaONE-PIECE SWIMSUITaBRIEFSaSHORTSaTHONG SANDAL"]⟩,
  ⟨129656, ["aDROP OF BLOODaADHESIVE BANDAGEaSTETHOSCOPEaX-RAYaCRUTCH"]⟩,
  ⟨129664, ["aYO-YOaKITEaPARACHUTEaBOOMERANGaMAGIC WANDaPINATAaNESTING DOLLS"]⟩,
  ⟨129680, ["aRINGED PLANETaCHAIRaRAZORaAXEaDIYA LAMPaBANJOaMILITARY HELMETaACCORDION",
    "aLONG DRUMaCOINbARPENTRY SAWaSCREWDRIVERaLADDERaHOOKaMIRRORaWINDOWaPLUNGERaSEWING NEEDLE",
    "aKNOTaBUCKETaMOUSE TRAPaTOOTHBRUSHaHEADSTONEaPLACARDaROCKaMIRROR BALLaIDENTIFICATION CARD",
    "aLOW BATTERYaHAMSA"]⟩,
  ⟨129712, ["aFLYaWORMaBEETLEaCOCKROACHaPOTTED PLANTaWOODaFEATHERaLOTUSaCORALaEMPTY NEST",
    "aNEST WITH EGGS"]⟩,
  ⟨129728, ["aANATOMICAL HEARTaLUNGSaPEOPLE HUGGINGbREGNANT MANjPERSONbERSON WITH CROWN"]⟩,
  ⟨129744, ["aBLUEBERRIESbELL PEPPERaOLIVEaFLATBREADaTAMALEaFONDUEaTEAPOTaPOURING LIQUIDaBEANS",
    "aJAR"]⟩,
  ⟨129760, ["aMELTING FACEaSALUTING FACEaFACE WITH OPEN EYES AND HAND OVER MOUTHkPEEKING EYE",
    "kDIAGONAL MOUTHaDOTTED LINE FACEaBITING LIPbUBBLES"]⟩,
  ⟨129776, ["aHAND WITH INDEX FINGER AND THUMB CROSSEDaRIGHTWARDS HANDaLEFTWARDS HAND",
    "aPALM DOWN HANDfUP HANDaINDEX POINTING AT THE VIEWERaHEART HANDS"]⟩,
  ⟨129792, ["aBLOCK SEXTANT-1o2o12o3o13o23o123o4o14o24o124o34o134o234o1234o5o15o25o125o35o235",
    "o1235o45o145o245o1245o345o1345o2345o12345o6o16o26o126o36o136o236o1236o46o146p246o346o1346",
    "o2346o12346o56o156o256o1256o356o1356o2356o12356o456o1456o2456o12456o3456o13456o23456",
    "aLOWER LEFT BLOCK DIAGONAL LOWER MIDDLE LEFT TO LOWER CENTRE",
    "z LOWER MIDDLE LEFT TO LOWER RIGHTz UPPER MIDDLE LEFT TO LOWER CENTRE",
    "z UPPER MIDDLE LEFT TO LOWER RIGHTz UPPER LEFT TO LOWER CENTRE",
    "gRIGHT BLOCK DIAGONAL UPPER MIDDLE LEFT TO UPPER CENTRE",
    "zL UPPER MIDDLE LEFT TO UPPER RIGHTzL LOWER MIDDLE LEFT TO UPPER CENTRE",
    "zL LOWER MIDDLE LEFT TO UPPER RIGHTzL LOWER LEFT TO UPPER CENTRE",
    "zL LOWER MIDDLE LEFT TO UPPER MIDDLE RIGHTzL LOWER CENTRE TO LOWER MIDDLE RIGHT",
    "zL LOWER LEFT TO LOWER MIDDLE RIGHTzL LOWER CENTRE TO UPPER MIDDLE RIGHT",
    "zL LOWER LEFT TO UPPER MIDDLE RIGHTzL LOWER CENTRE TO UPPER RIGHT",
    "gLEFT BLOCK DIAGONAL UPPER CENTRE TO UPPER MIDDLE RIGHTz UPPER LEFT TO UPPER MIDDLE RIGHT",
    "z UPPER CENTRE TO LOWER MIDDLE RIGHTz UPPER LEFT TO LOWER MIDDLE RIGHT",
    "z UPPER CENTRE TO LOWER RIGHTz UPPER MIDDLE LEFT TO LOWER MIDDLE RIGHT",
    "aUPPER RIGHT BLOCK DIAGONAL LOWER MIDDLE LEFT TO LOWER CENTRE",
    "zL LOWER MIDDLE LEFT TO LOWER RIGHTzL UPPER MIDDLE LEFT TO LOWER CENTRE",
    "zL UPPER MIDDLE LEFT TO LOWER RIGHTzL UPPER LEFT TO LOWER CENTRE",
    "gLEFT BLOCK DIAGONAL UPPER MIDDLE LEFT TO UPPER CENTREz UPPER MIDDLE LEFT TO UPPER RIGHT",
    "z LOWER MIDDLE LEFT TO UPPER CENTREz LOWER MIDDLE LEFT TO UPPER RIGHT",
    "z LOWER LEFT TO UPPER CENTREz LOWER MIDDLE LEFT TO UPPER MIDDLE RIGHT",
    "z LOWER CENTRE TO LOWER MIDDLE RIGHTz LOWER LEFT TO LOWER MIDDLE RIGHT",
    "z LOWER CENTRE TO UPPER MIDDLE RIGHTz LOWER LEFT TO UPPER MIDDLE RIGHT",
    "z LOWER CENTRE TO UPPER RIGHTgRIGHT BLOCK DIAGONAL UPPER CENTRE TO UPPER MIDDLE RIGHT",
    "zL UPPER LEFT TO UPPER MIDDLE RIGHTzL UPPER CENTRE TO LOWER MIDDLE RIGHT",
    "zL UPPER LEFT TO LOWER MIDDLE RIGHTzL UPPER CENTRE TO LOWER RIGHT",
    "zL UPPER MIDDLE LEFT TO LOWER MIDDLE RIGHT",
    "gAND RIGHT AND LOWER TRIANGULAR THREE QUARTERS BLOCK",
    "aLEFT AND LOWER AND RIGHT TRIANGULAR THREE QUARTERS BLOCK",
    "aUPPER AND LEFT AND LOWER TRIANGULAR THREE QUARTERS BLOCK",
    "aLEFT AND UPPER AND RIGHT TRIANGULAR THREE QUARTERS BLOCKfTRIANGULAR ONE QUARTER BLOCK",
    "aUPPER TRIANGULAR ONE QUARTER BLOCKaRIGHT TRIANGULAR ONE QUARTER BLOCK",
    "aLOWER TRIANGULAR ONE QUARTER BLOCKaVERTICAL ONE EIGHTH BLOCK-2z-3z-4z-5z-6z-7",
    "aHORIZONTAL ONE EIGHTH BLOCK-2zCK-3zCK-4zCK-5zCK-6zCK-7aLEFT AND LOWER ONE EIGHTH BLOCK",
    "jUPPER ONE EIGHTH BLOCKaRIGHT AND UPPER ONE EIGHTH BLOCKkLOWER ONE EIGHTH BLOCK",
    "aUPPER AND LOWER ONE EIGHTH BLOCKaHORIZONTAL ONE EIGHTH BLOCK-1358",
    "aUPPER ONE QUARTER BLOCKgTHREE EIGHTHS BLOCKgFIVE EIGHTHS BLOCKgTHREE QUARTERS BLOCK",
    "gSEVEN EIGHTHS BLOCKaRIGHT ONE QUARTER BLOCKgTHREE EIGHTHS BLOCKgFIVE EIGHTHS BLOCK",
    "gTHREE QUARTERS BLOCKgSEVEN EIGHTHS BLOCKaLEFT HALF MEDIUM SHADEaRIGHT HALF MEDIUM SHADE",
    "aUPPER HALF MEDIUM SHADEaLOWER HALF MEDIUM SHADEaINVERSE MEDIUM SHADE",
    "aUPPER HALF BLOCK AND LOWER HALF INVERSE MEDIUM SHADE",
    "lINVERSE MEDIUM SHADE AND LOWER HALF BLOCK"]⟩,
  ⟨129940, ["aLEFT HALF INVERSE MEDIUM SHADE AND RIGHT HALF BLOCKaCHECKER BOARD FILL",
    "aINVERSE CHECKER BOARD FILLaHEAVY HORIZONTAL FILLaUPPER LEFT TO LOWER RIGHT FILL",
    "gRIGHT TO LOWER LEFT FILLgAND LOWER TRIANGULAR HALF BLOCK",
    "aLEFT AND RIGHT TRIANGULAR HALF BLOCKaUPPER LEFT TRIANGULAR MEDIUM SHADE",
    "gRIGHT TRIANGULAR MEDIUM SHADEaLOWER RIGHT TRIANGULAR MEDIUM SHADE",
    "gLEFT TRIANGULAR MEDIUM SHADEaBOX DRAWINGS LIGHT DIAGONAL UPPER CENTRE TO MIDDLE LEFT",
    "zAL UPPER CENTRE TO MIDDLE RIGHTzAL MIDDLE LEFT TO LOWER CENTRE",
    "zAL MIDDLE RIGHT TO LOWER CENTREzAL UPPER CENTRE TO MIDDLE LEFT TO LOWER CENTRE",
    "zAL UPPER CENTRE TO MIDDLE RIGHT TO LOWER CENTRE",
    "zAL MIDDLE LEFT TO LOWER CENTRE TO MIDDLE RIGHT",
    "zAL MIDDLE LEFT TO UPPER CENTRE TO MIDDLE RIGHT",
    "zAL UPPER CENTRE TO MIDDLE LEFT AND MIDDLE RIGHT TO LOWER CENTRE",
    "zAL UPPER CENTRE TO MIDDLE RIGHT AND MIDDLE LEFT TO LOWER CENTRE",
    "zAL UPPER CENTRE TO MIDDLE RIGHT TO LOWER CENTRE TO MIDDLE LEFT",
    "zAL UPPER CENTRE TO MIDDLE LEFT TO LOWER CENTRE TO MIDDLE RIGHT",
    "zAL MIDDLE LEFT TO UPPER CENTRE TO MIDDLE RIGHT TO LOWER CENTRE",
    "zAL MIDDLE RIGHT TO UPPER CENTRE TO MIDDLE LEFT TO LOWER CENTREzAL DIAMOND",
    "tHORIZONTAL WITH VERTICAL STROKEaARROWHEAD-SHAPED POINTERaINVERSE CHECK MARK",
    "aLEFT HALF RUNNING MANaRIGHT HALF RUNNING MANaINVERSE DOWNWARDS ARROW WITH TIP LEFTWARDS",
    "aLEFTWARDS ARROW AND UPPER AND LOWER ONE EIGHTH BLOCK",
    "aRIGHTWARDS ARROW AND UPPER AND LOWER ONE EIGHTH BLOCK",
    "aDOWNWARDS ARROW AND RIGHT ONE EIGHTH BLOCKaUPWARDS ARROW AND RIGHT ONE EIGHTH BLOCK",
    "aLEFT HALF FOLDERaRIGHT HALF FOLDERaVOIDED GREEK CROSSaRIGHT OPEN SQUARED DOT",
    "aNEGATIVE DIAGONAL CROSSsMIDDLE RIGHT TO LOWER CENTREsDIAMOND",
    "aWHITE HEAVY SALTIRE WITH ROUNDED CORNERSaLEFT THIRD WHITE RIGHT POINTING INDEX",
    "aMIDDLE THIRD WHITE RIGHT POINTING INDEXaRIGHT THIRD WHITE RIGHT POINTING INDEX",
    "aNEGATIVE SQUARED QUESTION MARKaSTICK FIGUREm WITH ARMS RAISEDnLEANING LEFTvRIGHT",
    "nWITH DRESSaWHITE UP-POINTING CHEVRON"]⟩,
  ⟨130032, ["aSEGMENTED DIGIT ZEROqONEqTWOrHREEqFOURrIVEqSIXrEVENqEIGHTqNINE"]⟩,
  ⟨917505, ["aLANGUAGE TAG"]⟩,
  ⟨917536, ["aTAG SPACEeEXCLAMATION MARKeQUOTATION MARKeNUMBER SIGNeDOLLAR SIGNePERCENT SIGN",
    "eAMPERSANDfPOSTROPHEeLEFT PARENTHESISeRIGHT PARENTHESISeASTERISKePLUS SIGNeCOMMA",
    "eHYPHEN-MINUSeFULL STOPeSOLIDUSeDIGIT ZEROkONEkTWOlHREEkFOURlIVEkSIXlEVENkEIGHTkNINE",
    "eCOLONeSEMICOLONeLESS-THAN SIGNeEQUALS SIGNeGREATER-THAN SIGNeQUESTION MARKeCOMMERCIAL AT",
    "eLATIN CAPITAL LETTER AzBzCzDzEzFzGzHzIzJzKzLzMzNzOzPzQzRzSzTzUzVzWzXzYzZ",
    "fEFT SQUARE BRACKETeREVERSE SOLIDUSfIGHT SQUARE BRACKETeCIRCUMFLEX ACCENTeLOW LINE",
    "eGRAVE ACCENTeLATIN SMALL LETTER AxBxCxDxExFxGxHxIxJxKxLxMxNxOxPxQxRxSxTxUxVxWxXxYxZ",
    "fEFT CURLY BRACKETeVERTICAL LINEeRIGHT CURLY BRACKETeTILDEaCANCEL TAG"]⟩,
  ⟨917760, ["aVARIATION SELECTOR-17u8u9t20u1u2u3u4u5u6u7u8u9t30u1u2u3u4u5u6u7u8u9t40u1u2u3u4u5",
    "u6u7u8u9t50u1u2u3u4u5u6u7u8u9t60u1u2u3u4u5u6u7u8u9t70u1u2u3u4u5u6u7u8u9t80u1u2u3u4u5u6u7",
    "u8u9t90u1u2u3u4u5u6u7u8u9t100v1v2v3v4v5v6v7v8v9u10v1v2v3v4v5v6v7v8v9u20v1v2v3v4v5v6v7v8v9",
    "u30v1v2v3v4v5v6v7v8v9u40v1v2v3v4v5v6v7v8v9u50v1v2v3v4v5v6v7v8v9u60v1v2v3v4v5v6v7v8v9u70v1",
    "v2v3v4v5v6v7v8v9u80v1v2v3v4v5v6v7v8v9u90v1v2v3v4v5v6v7v8v9t200v1v2v3v4v5v6v7v8v9u10v1v2v3",
    "v4v5v6v7v8v9u20v1v2v3v4v5v6v7v8v9u30v1v2v3v4v5v6v7v8v9u40v1v2v3v4v5v6v7v8v9u50v1v2v3v4v5",
    "v6"]⟩]

end LineScript.Text
