set_option autoImplicit false

/-! # Names of characters

Coptic, radicals, kana and enclosed East Asian letters. -/

namespace ApiRouter.Text.Name

/-- The names of the characters from 2C00 to 4DFF. -/
def eastAsian : List String := [
  "=2C00aGLAGOLITIC CAPITAL LETTER AZUdBUKYdVEDEdGLAGOLIdDOBROdYESTUdZHIVETEdDZELOdZEMLJAdIZHE",
  "dnINITIALdIdDJERVIdKAKOdLJUDIJEdMYSLITEdNASHIdONUdPOKOJIdRITSIdSLOVOdTVRIDOdUKUdFRITUdHERU",
  "dOTUdPEdSHTAdTSIdCHRIVIdSHAdYERUdYERIdYATIdSPIDERY HAdYUdSMALL YUSfWITH TAILdYO",
  "dIOTATED SMALL YUSdnBIGdoIOTATEDdFITAdIZHITSAdSHTAPICdTROKUTASTI AdLATINATE MYSLITE",
  "dCAUDATE CHRIVIbSMALL LETTER AZUdBUKYdVEDEdGLAGOLIdDOBROdYESTUdZHIVETEdDZELOdZEMLJAdIZHE",
  "dnINITIALdIdDJERVIdKAKOdLJUDIJEdMYSLITEdNASHIdONUdPOKOJIdRITSIdSLOVOdTVRIDOdUKUdFRITUdHERU",
  "dOTUdPEdSHTAdTSIdCHRIVIdSHAdYERUdYERIdYATIdSPIDERY HAdYUdSMALL YUSfWITH TAILdYO",
  "dIOTATED SMALL YUSdnBIGdoIOTATEDdFITAdIZHITSAdSHTAPICdTROKUTASTI AdLATINATE MYSLITE",
  "dCAUDATE CHRIVIaLATIN CAPITAL LETTER L WITH DOUBLE BARbrSMALL",
  "bCAPITAL LETTER L WITH MIDDLE TILDEdP WITH STROKEdR WITH TAILbSMALL LETTER A WITH STROKE",
  "dnT WITH DIAGONALbCAPITAL LETTER H WITH DESCENDERbqSMALLboCAPITAL LETTER KbqSMALL",
  "boCAPITAL LETTER ZbqSMALLbCAPITAL LETTER ALPHAdM WITH HOOKdTURNED AeALPHA",
  "bSMALL LETTER V WITH RIGHT HOOKbnCAPITAL LETTER W WITHbqSMALLdV WITH CURL",
  "bCAPITAL LETTER HALF HbpSMALLdTAILLESS PHIdE WITH NOTCHdTURNED R WITH TAIL",
  "dO WITH LOW RING INSIDEbLETTER SMALL CAPITAL TURNED EbSUBSCRIPT SMALL LETTER J",
  "aMODIFIER LETTER CAPITAL VaLATIN CAPITAL LETTER S WITH SWASH TAILdpZ",
  "aCOPTIC CAPITAL LETTER ALFAboSMALLbCAPITAL LETTER VIDAboSMALLbCAPITAL LETTER GAMMAboSMALL",
  "bCAPITAL LETTER DALDAboSMALLbCAPITAL LETTER EIEboSMALLbCAPITAL LETTER SOUboSMALL",
  "bCAPITAL LETTER ZATAboSMALLbCAPITAL LETTER HATEboSMALLbCAPITAL LETTER THETHEboSMALL",
  "bCAPITAL LETTER IAUDAboSMALLbCAPITAL LETTER KAPAboSMALLbCAPITAL LETTER LAULAboSMALL",
  "bCAPITAL LETTER MIboSMALLbCAPITAL LETTER NIboSMALLbCAPITAL LETTER KSIboSMALLbCAPITAL LETTER O",
  "boSMALLbCAPITAL LETTER PIboSMALLbCAPITAL LETTER ROboSMALLbCAPITAL LETTER SIMAboSMALL",
  "bCAPITAL LETTER TAUboSMALLbCAPITAL LETTER UAboSMALLbCAPITAL LETTER FIboSMALL",
  "bCAPITAL LETTER KHIboSMALLbCAPITAL LETTER PSIboSMALLbCAPITAL LETTER OOUboSMALL",
  "bCAPITAL LETTER DIALECT-P ALEFbpSMALLbCAPITAL LETTER OLD COPTIC AINbqSMALL",
  "bCAPITAL LETTER CRYPTOGRAMMIC EIEbpSMALLbCAPITAL LETTER DIALECT-P KAPAbpSMALL",
  "bCAPITAL LETTER DIALECT-P NIbpSMALLbnCAPITAL LETTER CRYPTOGRAMMICbpSMALL",
  "bCAPITAL LETTER OLD COPTIC OOUbqSMALLbCAPITAL LETTER SAMPIboSMALLbCAPITAL LETTER CROSSED SHEI",
  "bpSMALLbnCAPITAL LETTER OLD COPTICbqSMALLbCAPITAL LETTER OLD COPTIC ESHbqSMALL",
  "bCAPITAL LETTER AKHMIMIC KHEIbpSMALLbCAPITAL LETTER DIALECT-P HORIbpSMALL",
  "bnCAPITAL LETTER OLD COPTICbqSMALLbCAPITAL LETTER OLD COPTIC HAbqSMALL",
  "bnCAPITAL LETTER L-SHAPEDbpSMALLbCAPITAL LETTER OLD COPTIC HEIbqSMALL",
  "bCAPITAL LETTER OLD COPTIC HATbqSMALLbCAPITAL LETTER OLD COPTIC GANGIAbqSMALL",
  "bCAPITAL LETTER OLD COPTIC DJAbqSMALLbCAPITAL LETTER OLD COPTIC SHIMAbqSMALL",
  "bnCAPITAL LETTER OLD NUBIANbqSMALLbCAPITAL LETTER OLD NUBIAN NGIbqSMALL",
  "bCAPITAL LETTER OLD NUBIAN NYIbqSMALLbCAPITAL LETTER OLD NUBIAN WAUbqSMALLbSYMBOL KAIcMI RO",
  "cnPIcSTAUROScTAU ROcnKHIcSHIMA SIMAbCAPITAL LETTER CRYPTOGRAMMIC SHEIbpSMALL",
  "bCAPITAL LETTER CRYPTOGRAMMIC GANGIAbpSMALLbCOMBINING NI ABOVEcSPIRITUS ASPERdLENIS",
  "bCAPITAL LETTER BOHAIRIC KHEIbpSMALL=2CF9bOLD NUBIAN FULL STOPdDIRECT QUESTION MARKdoINDIRECT",
  "dVERSE DIVIDERbFRACTION ONE HALFbFULL STOPbMORPHOLOGICAL DIVIDERaGEORGIAN SMALL LETTER ANdBAN",
  "dGANdDONdENdVINdZENdTANdINdKANdLASdMANdNARdONdPARdZHARdRAEdSANdTARdUNdPHARdKHARdGHANdQARdSHIN",
  "dCHINdCANdJILdCILdCHARdXANdJHANdHAEdHEdHIEdWEdHARdHOE=2D27dYN=2D2DdAEN=2D30",
  "aTIFINAGH LETTER YAcYABcYABHcYAGcYAGHHcBERBER ACADEMY YAJcncYADcYADHcYADDcYADDHcYEYcYAFcYAK",
  "cnTUAREGcYAKHHcYAHcnBERBER ACADEMYcnTUAREGcYAHHcYAAcYAKHcnTUAREGcYAQcnTUAREGcYIcYAZHcnAHAGGAR",
  "cnTUAREGcYALcYAMcYANcTUAREG YAGNdYANGcYAPcYUcYARcYARRcYAGHcnTUAREGcnAYERcYAScYASScYASHcYAT",
  "cYATHcYACHcYATTcYAVcYAWcYAYcYAZcnTAWELLEMETcYAZZcYEcYO=2D6F",
  "bMODIFIER LETTER LABIALIZATION MARKbnSEPARATOR=2D7FbCONSONANT JOINERaETHIOPIC SYLLABLE LOA",
  "cMOAcROAcSOAcSHOAcBOAcTOAcCOAcNOAcNYOAcGLOTTAL OAcZOAcDOAcDDOAcJOAcTHOAcCHOAcPHOAcPOAcGGWA",
  "cGGWIcGGWEEcGGWE=2DA0cSSAcSSUcSSIcSSAAcSSEEcSSEcSSO=2DA8cCCAcCCUcCCIcCCAAcCCEEcCCEcCCO=2DB0",
  "cZZAcZZUcZZIcZZAAcZZEEcZZEcZZO=2DB8cCCHAcCCHUcCCHIcCCHAAcCCHEEcCCHEcCCHO=2DC0cQYAcQYUcQYI",
  "cQYAAcQYEEcQYEcQYO=2DC8cKYAcKYUcKYIcKYAAcKYEEcKYEcKYO=2DD0cXYAcXYUcXYIcXYAAcXYEEcXYEcXYO=2DD8",
  "cGYAcGYUcGYIcGYAAcGYEEcGYEcGYO=2DE0aCOMBINING CYRILLIC LETTER BEdVEdGHEdDEdZHEdZEdKAdELdEMdEN",
  "dOdPEdERdESdTEdHAdTSEdCHEdSHAdSHCHAdFITAdES-TEdAdIEdDJERVdMONOGRAPH UKdYATdYUdIOTIFIED A",
  "dLITTLE YUSdnBIGdoIOTIFIEDaRIGHT ANGLE SUBSTITUTION MARKERcoDOTTEDaLEFT SUBSTITUTION BRACKET",
  "aoRIGHTaoLEFT DOTTEDapRIGHTaRAISED INTERPOLATION MARKERboDOTTEDanDOTTED TRANSPOSITION",
  "aLEFT TRANSPOSITION BRACKETaoRIGHTaRAISED SQUAREaLEFT RAISED OMISSION BRACKETapRIGHT",
  "aEDITORIAL CORONISaPARAGRAPHOSanFORKEDaoREVERSEDaHYPODIASTOLEaDOTTED OBELOSaDOWNWARDS ANCORA",
  "anUPWARDSaDOTTED RIGHT-POINTING ANGLEaDOUBLE OBLIQUE HYPHENaINVERTED INTERROBANGaPALM BRANCH",
  "aHYPHEN WITH DIAERESISaTILDE WITH RING ABOVEaLEFT LOW PARAPHRASE BRACKETapRIGHT",
  "aTILDE WITH DOT ABOVEdBELOWaLEFT VERTICAL BAR WITH QUILLaqRIGHTaTOP LEFT HALF BRACKETboRIGHT",
  "aoBOTTOM LEFTboRIGHTanLEFT SIDEWAYS UapRIGHTaLEFT DOUBLE PARENTHESISaoRIGHT",
  "aTWO DOTS OVER ONE DOT PUNCTUATIONanONE DOT OVER TWO DOTSanSQUARED FOUR DOTaFIVE DOT MARK",
  "anREVERSED QUESTIONaVERTICAL TILDEaRING POINTaWORD SEPARATOR MIDDLE DOTaTURNED COMMA",
  "aRAISED DOTbCOMMAaTURNED SEMICOLONaDAGGER WITH LEFT GUARDcnRIGHTaTURNED DAGGER",
  "aTOP HALF SECTION SIGNaTWO-EM DASHanTHREE-EMaSTENOGRAPHIC FULL STOPaVERTICAL SIX DOTS",
  "aWIGGLY VERTICAL LINEaCAPITULUMaDOUBLE HYPHENaREVERSED COMMA",
  "aDOUBLE LOW-REVERSED-9 QUOTATION MARKaDASH WITH LEFT UPTURNaDOUBLE SUSPENSION MARK",
  "aINVERTED LOW KAVYKAdWITH KAVYKA ABOVEaLOW KAVYKAcWITH DOTaDOUBLE STACKED COMMA",
  "aDOTTED SOLIDUSaTRIPLE DAGGERaMEDIEVAL COMMAaPARAGRAPHUS MARKanPUNCTUS ELEVATUS",
  "aCORNISH VERSE DIVIDERaCROSS PATTY WITH RIGHT CROSSBARdnLEFTaTIRONIAN SIGN CAPITAL ET",
  "aMEDIEVAL EXCLAMATION MARKbnQUESTIONaLEFT SQUARE BRACKET WITH STROKEaqRIGHT",
  "anLEFT SQUARE BRACKET WITH DOUBLEarRIGHTaTOP HALF LEFT PARENTHESIScnRIGHTanBOTTOM HALF LEFT",
  "cnRIGHTaOBLIQUE HYPHEN=2E80aCJK RADICAL REPEATcCLIFFcSECOND ONEdTWOdTHREEcPERSONcBOXcTABLE",
  "cKNIFE ONEdTWOcDIVINATIONcSEALcSMALL ONEdTWOcLAME ONEdTWOdTHREEdFOURcSNAKEcTHREADcSNOUT ONE",
  "dTWOcHEART ONEdTWOcHANDcRAP=2E9BcCHOKEcSUNcMOONcDEATHcMOTHERcCIVILIANcWATER ONEdTWOcFIRE",
  "cPAW ONEdTWOcSIMPLIFIED HALF TREE TRUNKcCOWcDOGcJADEcBOLT OF CLOTHcEYEcSPIRIT ONEdTWOcBAMBOO",
  "cSILKcnC-SIMPLIFIEDcNET ONEdTWOdTHREEdFOURcMESHcSHEEPcRAMcEWEcOLDcBRUSH ONEdTWOcMEATcMORTAR",
  "cGRASS ONEdTWOdTHREEcTIGERcCLOTHEScWEST ONEdTWOcC-SIMPLIFIED SEEcSIMPLIFIED HORNcn",
  "cC-SIMPLIFIED SPEECHdSHELLcFOOTcC-SIMPLIFIED CARTcSIMPLIFIED WALKcWALK ONEdTWOcCITY",
  "cC-SIMPLIFIED GOLDcLONG ONEdTWOcC-SIMPLIFIED LONGdGATEcMOUND ONEdTWOcRAINcBLUE",
  "cC-SIMPLIFIED TANNED LEATHERdLEAFdWINDdFLYcEAT ONEdTWOdTHREEcC-SIMPLIFIED EATcHEAD",
  "cC-SIMPLIFIED HORSEcBONEcGHOSTcC-SIMPLIFIED FISHdBIRDdSALTcSIMPLIFIED WHEATdYELLOW",
  "cC-SIMPLIFIED FROGcJ-SIMPLIFIED EVENcnC-SIMPLIFIEDcJ-SIMPLIFIED TOOTHcnC-SIMPLIFIED",
  "cJ-SIMPLIFIED DRAGONcnC-SIMPLIFIEDcTURTLEcnJ-SIMPLIFIEDcnC-SIMPLIFIED=2F00aKANGXI RADICAL ONE",
  "cLINEcDOTcSLASHcSECONDcHOOKcTWOcLIDcMANcLEGScENTERcEIGHTcDOWN BOXcCOVERcICEcTABLEcOPEN BOX",
  "cKNIFEcPOWERcWRAPcSPOONcRIGHT OPEN BOXcHIDING ENCLOSUREcTENcDIVINATIONcSEALcCLIFFcPRIVATE",
  "cAGAINcMOUTHcENCLOSUREcEARTHcSCHOLARcGOdSLOWLYcEVENINGcBIGcWOMANcCHILDcROOFcINCHcSMALLcLAME",
  "cCORPSEcSPROUTcMOUNTAINcRIVERcWORKcONESELFcTURBANcDRYcSHORT THREADcDOTTED CLIFFcLONG STRIDE",
  "cTWO HANDScSHOOTcBOWcSNOUTcBRISTLEcSTEPcHEARTcHALBERDcDOORcHANDcBRANCHcRAPcSCRIPTcDIPPERcAXE",
  "cSQUAREcNOTcSUNcSAYcMOONcTREEcLACKcSTOPcDEATHcWEAPONcDO NOTcCOMPAREcFURcCLANcSTEAMcWATERcFIRE",
  "cCLAWcFATHERcDOUBLE XcHALF TREE TRUNKcSLICEcFANGcCOWcDOGcPROFOUNDcJADEcMELONcTILEcSWEETcLIFE",
  "cUSEcFIELDcBOLT OF CLOTHcSICKNESScDOTTED TENTcWHITEcSKINcDISHcEYEcSPEARcARROWcSTONEcSPIRIT",
  "cTRACKcGRAINcCAVEcSTANDcBAMBOOcRICEcSILKcJARcNETcSHEEPcFEATHERcOLDcANDcPLOWcEARcBRUSHcMEAT",
  "cMINISTERcSELFcARRIVEcMORTARcTONGUEcOPPOSEcBOATcSTOPPINGcCOLORcGRASScTIGERcINSECTcBLOOD",
  "cWALK ENCLOSUREcCLOTHEScWESTcSEEcHORNcSPEECHcVALLEYcBEANcPIGcBADGERcSHELLcREDcRUNcFOOTcBODY",
  "cCARTcBITTERcMORNINGcWALKcCITYcWINEcDISTINGUISHcVILLAGEcGOLDcLONGcGATEcMOUNDcSLAVE",
  "cSHORT TAILED BIRDcRAINcBLUEcWRONGcFACEcLEATHERcnTANNEDcLEEKcSOUNDcLEAFcWINDcFLYcEATcHEAD",
  "cFRAGRANTcHORSEcBONEcTALLcHAIRcFIGHTcSACRIFICIAL WINEcCAULDRONcGHOSTcFISHcBIRDcSALTcDEER",
  "cWHEATcHEMPcYELLOWcMILLETcBLACKcEMBROIDERYcFROGcTRIPODcDRUMcRATcNOSEcEVENcTOOTHcDRAGONcTURTLE",
  "cFLUTE=2FF0aIDEOGRAPHIC DESCRIPTION CHARACTER LEFT TO RIGHTdABOVE TO BELOW",
  "dLEFT TO MIDDLE AND RIGHTdABOVE TO MIDDLE AND BELOWdFULL SURROUNDdSURROUND FROM ABOVEfBELOW",
  "fLEFTfnUPPERgRIGHTfLOWER LEFTdOVERLAID=3000bSPACEbCOMMAbFULL STOPaDITTO MARK",
  "aJAPANESE INDUSTRIAL STANDARD SYMBOLaIDEOGRAPHIC ITERATION MARKbnCLOSINGbNUMBER ZERO",
  "aLEFT ANGLE BRACKETaoRIGHTaoLEFT DOUBLEapRIGHTanLEFT CORNERaoRIGHTaoLEFT WHITEapRIGHT",
  "anLEFT BLACK LENTICULARapRIGHTaPOSTAL MARKanGETAaLEFT TORTOISE SHELL BRACKETapRIGHT",
  "anLEFT WHITE LENTICULARapRIGHTanLEFT WHITE TORTOISE SHELLaqRIGHTanLEFT WHITE SQUAREapRIGHT",
  "aWAVE DASHaREVERSED DOUBLE PRIME QUOTATION MARKaqaqLOWaPOSTAL MARK FACEaHANGZHOU NUMERAL ONE",
  "cTWOcTHREEcFOURcFIVEcSIXcSEVENcEIGHTcNINEaIDEOGRAPHIC LEVEL TONE MARKboRISINGboDEPARTING",
  "boENTERINGaoHANGUL SINGLE DOTbpDOUBLEaWAVY DASHaVERTICAL KANA REPEAT MARKdnWITH VOICED SOUND",
  "dMARK UPPER HALFdpWITH VOICED SOUNDdnMARK LOWERaCIRCLED POSTAL MARK",
  "aIDEOGRAPHIC TELEGRAPH LINE FEED SEPARATOR SYMBOLaHANGZHOU NUMERAL TENcTWENTYcTHIRTY",
  "aVERTICAL IDEOGRAPHIC ITERATION MARKanMASUanPART ALTERNATIONaIDEOGRAPHIC VARIATION INDICATOR",
  "bHALF FILL SPACE=3041aHIRAGANA LETTER SMALL AcncSMALL IcncSMALL UcncSMALL EcncSMALL OcncKAcGA",
  "cKIcGIcKUcGUcKEcGEcKOcGOcSAcZAcSIcZIcSUcZUcSEcZEcSOcZOcTAcDAcTIcDIcSMALL TUcncDUcTEcDEcTOcDO",
  "cNAcNIcNUcNEcNOcHAcBAcPAcHIcBIcPIcHUcBUcPUcHEcBEcPEcHOcBOcPOcMAcMIcMUcMEcMOcSMALL YAcn",
  "cSMALL YUcncSMALL YOcncRAcRIcRUcREcROcSMALL WAcncWIcWEcWOcNcVUcSMALL KAdKE=3099",
  "aCOMBINING KATAKANA-HIRAGANA VOICED SOUND MARKcoSEMI-VOICEDaoKATAKANA-HIRAGANA VOICED",
  "boSEMI-VOICEDanHIRAGANA ITERATIONboVOICEDbDIGRAPH YORIaKATAKANA-HIRAGANA DOUBLE HYPHEN",
  "aKATAKANA LETTER SMALL AcncSMALL IcncSMALL UcncSMALL EcncSMALL OcncKAcGAcKIcGIcKUcGUcKEcGEcKO",
  "cGOcSAcZAcSIcZIcSUcZUcSEcZEcSOcZOcTAcDAcTIcDIcSMALL TUcncDUcTEcDEcTOcDOcNAcNIcNUcNEcNOcHAcBA",
  "cPAcHIcBIcPIcHUcBUcPUcHEcBEcPEcHOcBOcPOcMAcMIcMUcMEcMOcSMALL YAcncSMALL YUcncSMALL YOcncRAcRI",
  "cRUcREcROcSMALL WAcncWIcWEcWOcNcVUcSMALL KAdKEcVAcVIcVEcVObMIDDLE DOT",
  "aKATAKANA-HIRAGANA PROLONGED SOUND MARKanKATAKANA ITERATIONboVOICEDbDIGRAPH KOTO=3105",
  "aBOPOMOFO LETTER BcPcMcFcDcTcNcLcGcKcHcJcQcXcZHcCHcSHcRcZcCcScAcOcEcEHcAIcEIcAUcOUcANcENcANG",
  "cENGcERcIcUcIUcVcNGcGNcIHcO WITH DOT ABOVEcNN=3131aHANGUL LETTER KIYEOKcSSANGKIYEOK",
  "cKIYEOK-SIOScNIEUNcNIEUN-CIEUCcNIEUN-HIEUHcTIKEUTcSSANGTIKEUTcRIEULcRIEUL-KIYEOKcRIEUL-MIEUM",
  "cRIEUL-PIEUPcRIEUL-SIOScRIEUL-THIEUTHcRIEUL-PHIEUPHcRIEUL-HIEUHcMIEUMcPIEUPcSSANGPIEUP",
  "cPIEUP-SIOScSIOScSSANGSIOScIEUNGcCIEUCcSSANGCIEUCcCHIEUCHcKHIEUKHcTHIEUTHcPHIEUPHcHIEUHcAcAE",
  "cYAcYAEcEOcEcYEOcYEcOcWAcWAEcOEcYOcUcWEOcWEcWIcYUcEUcYIcIbFILLERbLETTER SSANGNIEUN",
  "cNIEUN-TIKEUTcNIEUN-SIOScNIEUN-PANSIOScRIEUL-KIYEOK-SIOScRIEUL-TIKEUTcRIEUL-PIEUP-SIOS",
  "cRIEUL-PANSIOScRIEUL-YEORINHIEUHcMIEUM-PIEUPcMIEUM-SIOScMIEUM-PANSIOScKAPYEOUNMIEUM",
  "cPIEUP-KIYEOKcPIEUP-TIKEUTcPIEUP-SIOS-KIYEOKcPIEUP-SIOS-TIKEUTcPIEUP-CIEUCcPIEUP-THIEUTH",
  "cKAPYEOUNPIEUPcKAPYEOUNSSANGPIEUPcSIOS-KIYEOKcSIOS-NIEUNcSIOS-TIKEUTcSIOS-PIEUPcSIOS-CIEUC",
  "cPANSIOScSSANGIEUNGcYESIEUNGcYESIEUNG-SIOScYESIEUNG-PANSIOScKAPYEOUNPHIEUPHcSSANGHIEUH",
  "cYEORINHIEUHcYO-YAcYO-YAEcYO-IcYU-YEOcYU-YEcYU-IcARAEAcARAEAE=3190",
  "aIDEOGRAPHIC ANNOTATION LINKING MARKcnREVERSEcnONEcnTWOcnTHREEcnFOURcnTOPcnMIDDLEcnBOTTOM",
  "cnFIRSTcnSECONDcnTHIRDcnFOURTHcnHEAVENcnEARTHcnMANaBOPOMOFO LETTER BUcZIcJIcGUcEEcENNcOOcONN",
  "cIRcANNcINNcUNNcIMcNGGcAINNcAUNNcAMcOMcONGcINNNbFINAL LETTER PdTdKdHbLETTER GHcLHcZY",
  "bFINAL LETTER GbLETTER GWcKWcOEcAHaCJK STROKE TcWGcXGcBXGcSWcHZZcHZGcHPcHZWGcSZWGcHZTcHZZP",
  "cHPWGcHZWcHZZZcNcHcScPcSPcDcHZcHGcSZcSWZcSTcSGcPDcPZcTNcSZZcSWGcHXWGcHZZZGcPGcQ=31F0",
  "aKATAKANA LETTER SMALL KUdSIdSUdTOdNUdHAdHIdHUdHEdHOdMUdRAdRIdRUdREdRO",
  "aPARENTHESIZED HANGUL KIYEOKcNIEUNcTIKEUTcRIEULcMIEUMcPIEUPcSIOScIEUNGcCIEUCcCHIEUCHcKHIEUKH",
  "cTHIEUTHcPHIEUPHcHIEUHcKIYEOK AcnNIEUNcnTIKEUTcnRIEULcnMIEUMcnPIEUPcnSIOScnIEUNGcnCIEUC",
  "cnCHIEUCHcnKHIEUKHcnTHIEUTHcnPHIEUPHcnHIEUHcCIEUC UbKOREAN CHARACTER OJEONdO HU=3220",
  "bIDEOGRAPH ONEcTWOcTHREEcFOURcFIVEcSIXcSEVENcEIGHTcNINEcTENcMOONcFIREcWATERcWOODcMETALcEARTH",
  "cSUNcSTOCKcHAVEcSOCIETYcNAMEcSPECIALcFINANCIALcCONGRATULATIONcLABORcREPRESENTcCALLcSTUDY",
  "cSUPERVISEcENTERPRISEcRESOURCEcALLIANCEcFESTIVALcRESTcSELFcREACHaCIRCLED IDEOGRAPH QUESTION",
  "cKINDERGARTENcSCHOOLcKOTObNUMBER TEN ON BLACK SQUAREcpTWENTYcpTHIRTYcpFORTYcpFIFTYcpSIXTY",
  "cpSEVENTYcpEIGHTYaPARTNERSHIP SIGNaCIRCLED NUMBER TWENTY ONEdTWOdTHREEdFOURdFIVEdSIXdSEVEN",
  "dEIGHTdNINEcTHIRTYdONEdTWOdTHREEdFOURdFIVEbHANGUL KIYEOKcNIEUNcTIKEUTcRIEULcMIEUMcPIEUPcSIOS",
  "cIEUNGcCIEUCcCHIEUCHcKHIEUKHcTHIEUTHcPHIEUPHcHIEUHcKIYEOK AcnNIEUNcnTIKEUTcnRIEULcnMIEUM",
  "cnPIEUPcnSIOScnIEUNGcnCIEUCcnCHIEUCHcnKHIEUKHcnTHIEUTHcnPHIEUPHcnHIEUH",
  "bKOREAN CHARACTER CHAMKOdJUEUIbHANGUL IEUNG UaKOREAN STANDARD SYMBOLaCIRCLED IDEOGRAPH ONE",
  "cTWOcTHREEcFOURcFIVEcSIXcSEVENcEIGHTcNINEcTENcMOONcFIREcWATERcWOODcMETALcEARTHcSUNcSTOCKcHAVE",
  "cSOCIETYcNAMEcSPECIALcFINANCIALcCONGRATULATIONcLABORcSECRETcMALEcFEMALEcSUITABLEcEXCELLENT",
  "cPRINTcATTENTIONcITEMcRESTcCOPYcCORRECTcHIGHcCENTREcLOWcLEFTcRIGHTcMEDICINEcRELIGIONcSTUDY",
  "cSUPERVISEcENTERPRISEcRESOURCEcALLIANCEcNIGHTbNUMBER THIRTY SIXdSEVENdEIGHTdNINEcFORTYdONE",
  "dTWOdTHREEdFOURdFIVEdSIXdSEVENdEIGHTdNINEcFIFTYaIDEOGRAPHIC TELEGRAPH SYMBOL FOR JANUARY",
  "eFEBRUARYeMARCHeAPRILeMAYeJUNEeJULYeAUGUSTeSEPTEMBEReOCTOBEReNOVEMBEReDECEMBERaSQUARE HGbERG",
  "bEVaLIMITED LIABILITY SIGNaCIRCLED KATAKANA AcIcUcEcOcKAcKIcKUcKEcKOcSAcSIcSUcSEcSOcTAcTIcTU",
  "cTEcTOcNAcNIcNUcNEcNOcHAcHIcHUcHEcHOcMAcMIcMUcMEcMOcYAcYUcYOcRAcRIcRUcREcROcWAcWIcWEcWO",
  "aSQUARE ERA NAME REIWAbAPAATObARUHUAbANPEAbAARUbININGUbINTIbUONbESUKUUDObEEKAAbONSUbOOMU",
  "bKAIRIbKARATTObKARORIIbGARONbGANMAbGIGAbGINIIbKYURIIbGIRUDAAbKIRObKIROGURAMUbKIROMEETORU",
  "bKIROWATTObGURAMUbGURAMUTONbKURUZEIRObKUROONEbKEESUbKORUNAbKOOPObSAIKURUbSANTIIMUbSIRINGU",
  "bSENTIbSENTObDAASUbDESIbDORUbTONbNANObNOTTObHAITUbPAASENTObPAATUbBAARERUbPIASUTORUbPIKURU",
  "bPIKObBIRUbHUARADDObHUIITObBUSSYERUbHURANbHEKUTAARUbPESObPENIHIbHERUTUbPENSUbPEEZIbBEETA",
  "bPOINTObBORUTObHONbPONDObHOORUbHOONbMAIKURObMAIRUbMAHHAbMARUKUbMANSYONbMIKURONbMIRIbMIRIBAARU",
  "bMEGAbMEGATONbMEETORUbYAADObYAARUbYUANbRITTORUbRIRAbRUPIIbRUUBURUbREMUbRENTOGENbWATTO",
  "aIDEOGRAPHIC TELEGRAPH SYMBOL FOR HOUR ZEROfONEfTWOfTHREEfFOURfFIVEfSIXfSEVENfEIGHTfNINEfTEN",
  "fELEVENfTWELVEfTHIRTEENfFOURTEENfFIFTEENfSIXTEENfSEVENTEENfEIGHTEENfNINETEENfTWENTY",
  "fTWENTY-ONEfTWENTY-TWOfTWENTY-THREEfTWENTY-FOURaSQUARE HPAbDAbAUbBARbOVbPCbDMcSQUAREDcCUBED",
  "bIUbERA NAME HEISEIdSYOUWAdTAISYOUdMEIZIbCORPORATIONbPA AMPSbNAbMU AbMAbKAbKBbMBbGBbCALbKCAL",
  "bPFbNFbMU FcGbMGbKGbHZbKHZbMHZbGHZbTHZbMU LbMLbDLbKLbFMbNMbMU MbMMbCMbKMbMM SQUAREDbnCMbnM",
  "bnKMbMM CUBEDbnCMbnMbnKMbM OVER SeSQUAREDbPAbKPAbMPAbGPAbRADcOVER SeSQUAREDbPSbNSbMU SbMSbPV",
  "bNVbMU VbMVbKVbMV MEGAbPWbNWbMU WbMWbKWbMW MEGAbK OHMbnMbAMbBQbCCbCDbC OVER KGbCObDBbGYbHAbHP",
  "bINbKKbKM CAPITALbKTbLMbLNbLOGbLXbMB SMALLbMILbMOLbPHbPMbPPMbPRbSRbSVbWBbV OVER MboA",
  "aIDEOGRAPHIC TELEGRAPH SYMBOL FOR DAY ONEfTWOfTHREEfFOURfFIVEfSIXfSEVENfEIGHTfNINEfTENfELEVEN",
  "fTWELVEfTHIRTEENfFOURTEENfFIFTEENfSIXTEENfSEVENTEENfEIGHTEENfNINETEENfTWENTYfTWENTY-ONE",
  "fTWENTY-TWOfTWENTY-THREEfTWENTY-FOURfTWENTY-FIVEfTWENTY-SIXfTWENTY-SEVENfTWENTY-EIGHT",
  "fTWENTY-NINEfTHIRTYfTHIRTY-ONEaSQUARE GAL=4DC0aHEXAGRAM FOR THE CREATIVE HEAVEN",
  "dRECEPTIVE EARTHcDIFFICULTY AT THE BEGINNINGcYOUTHFUL FOLLYcWAITINGcCONFLICTcTHE ARMY",
  "cHOLDING TOGETHERcSMALL TAMINGcTREADINGcPEACEcSTANDSTILLcFELLOWSHIPcGREAT POSSESSIONcMODESTY",
  "cENTHUSIASMcFOLLOWINGcWORK ON THE DECAYEDcAPPROACHcCONTEMPLATIONcBITING THROUGHcGRACE",
  "cSPLITTING APARTcRETURNcINNOCENCEcGREAT TAMINGcMOUTH CORNERScGREAT PREPONDERANCE",
  "cTHE ABYSMAL WATERdCLINGING FIREcINFLUENCEcDURATIONcRETREATcGREAT POWERcPROGRESS",
  "cDARKENING OF THE LIGHTcTHE FAMILYcOPPOSITIONcOBSTRUCTIONcDELIVERANCEcDECREASEcINCREASE",
  "cBREAKTHROUGHcCOMING TO MEETcGATHERING TOGETHERcPUSHING UPWARDcOPPRESSIONcTHE WELLcREVOLUTION",
  "cTHE CAULDRONdAROUSING THUNDERdKEEPING STILL MOUNTAINcDEVELOPMENTcTHE MARRYING MAIDEN",
  "cABUNDANCEcTHE WANDERERdGENTLE WINDdJOYOUS LAKEcDISPERSIONcLIMITATIONcINNER TRUTH",
  "cSMALL PREPONDERANCEcAFTER COMPLETIONcnBEFORE"
]

end ApiRouter.Text.Name
