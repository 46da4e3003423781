set_option autoImplicit false

/-! # Names of characters

Ogham, runes, the scripts of South-East Asia, and further Latin and Greek letters. -/

namespace ApiRouter.Text.Name

/-- The names of the characters from 1680 to 1FFE. -/
def lesser : List String := [
  "=1680aOGHAM SPACE MARKbLETTER BEITHcLUIScFEARNcSAILcNIONcUATHcDAIRcTINNEcCOLLcCEIRTcMUINcGORT",
  "cNGEADALcSTRAIFcRUIScAILMcONNcURcEADHADHcIODHADHcEABHADHcORcUILLEANNcIFINcEAMHANCHOLLcPEITH",
  "bFEATHER MARKboREVERSED=16A0aRUNIC LETTER FEHU FEOH FE FcVcURUZ UR UcYRcYcW",
  "cTHURISAZ THURS THORNcETHcANSUZ AcOS OcAC AcAESCcLONG-BRANCH-OSS OcnSHORT-TWIG-OSScncOEcON",
  "cRAIDO RAD REID RcKAUNAcCENcKAUN KcGcENGcGEBO GYFU GcGARcWUNJO WYNN WcHAGLAZ HcnHAEGL",
  "cnLONG-BRANCH-HAGALLcnSHORT-TWIG-HAGALLcNAUDIZ NYD NAUD NcnSHORT-TWIG-NAUDcDOTTED-N",
  "cISAZ IS ISS IcEcJERAN JcGERcLONG-BRANCH-AR AEcSHORT-TWIG-AR AcIWAZ EOHcPERTHO PEORTH P",
  "cALGIZ EOLHXcSOWILO ScnSIGEL LONG-BRANCH-SOLcnSHORT-TWIG-SOLcCcZcTIWAZ TIR TYR T",
  "cnSHORT-TWIG-TYRcDcBERKANAN BEORC BJARKAN BcnSHORT-TWIG-BJARKANcDOTTED-PcOPEN-PcEHWAZ EH E",
  "cMANNAZ MAN McnLONG-BRANCH-MADRcnSHORT-TWIG-MADRcLAUKAZ LAGU LOGR LcDOTTED-LcINGWAZcING",
  "cDAGAZ DAEG DcOTHALAN ETHEL OcEARcIORcCWEORTHcCALCcCEALCcSTANcLONG-BRANCH-YRcSHORT-TWIG-YR",
  "cICELANDIC-YRcQcXbSINGLE PUNCTUATIONbnMULTIPLEbnCROSSbARLAUG SYMBOLbnTVIMADURbnBELGTHOR",
  "bLETTER KcSHcOOcFRANKS CASKET OSeISeEHeACeAESC=1700aTAGALOG LETTER AcIcUcKAcGAcNGAcTAcDAcNA",
  "cPAcBAcMAcYAcRAcLAcWAcSAcHAbVOWEL SIGN IdUbSIGN VIRAMAcPAMUDPOD=171FbLETTER ARCHAIC RA",
  "aHANUNOO LETTER AcIcUcKAcGAcNGAcTAcDAcNAcPAcBAcMAcYAcRAcLAcWAcSAcHAbVOWEL SIGN IdU",
  "bSIGN PAMUDPODaPHILIPPINE SINGLE PUNCTUATIONbnDOUBLE=1740aBUHID LETTER AcIcUcKAcGAcNGAcTAcDA",
  "cNAcPAcBAcMAcYAcRAcLAcWAcSAcHAbVOWEL SIGN IdU=1760aTAGBANWA LETTER AcIcUcKAcGAcNGAcTAcDAcNA",
  "cPAcBAcMAcYA=176EcLAcWAcSA=1772bVOWEL SIGN IdU=1780aKHMER LETTER KAcKHAcKOcKHOcNGOcCAcCHAcCO",
  "cCHOcNYOcDAcTTHAcDOcTTHOcNNOcTAcTHAcTOcTHOcNOcBAcPHAcPOcPHOcMOcYOcROcLOcVOcSHAcSSOcSAcHAcLA",
  "cQAbINDEPENDENT VOWEL QAQdQAAdQIdQIIdQUdQUKdQUUdQUUVdRYdRYYdLYdLYYdQEdQAIdQOO TYPE ONEfTWO",
  "dQAUbVOWEL INHERENT AQdAAcnSIGNdIdIIdYdYYdUdUUdUAdOEdYAdIEdEdAEdAIdOOdAUbSIGN NIKAHITcREAHMUK",
  "cYUUKALEAPINTUcMUUSIKATOANcTRIISAPcBANTOCcROBATcTOANDAKHIATcKAKABATcAHSDAcSAMYOK SANNYA",
  "cVIRIAMcCOENGcBATHAMASATcKHANcBARIYOOSANcCAMNUC PII KUUHcLEK TOOcBEYYALcPHNAEK MUANcKOOMUUT",
  "bCURRENCY SYMBOL RIELbSIGN AVAKRAHASANYAcATTHACAN=17E0bDIGIT ZEROcONEcTWOcTHREEcFOURcFIVEcSIX",
  "cSEVENcEIGHTcNINE=17F0bSYMBOL LEK ATTAK SONeMUOYePIIeBEIeBUONePRAMePRAM-MUOYePRAM-PII",
  "ePRAM-BEIePRAM-BUON=1800aMONGOLIAN BIRGAbELLIPSISbCOMMAbFULL STOPbCOLONbFOUR DOTS",
  "bTODO SOFT HYPHENbSIBE SYLLABLE BOUNDARY MARKERbMANCHU COMMAcFULL STOPbNIRUGU",
  "bFREE VARIATION SELECTOR ONEeTWOeTHREEbVOWEL SEPARATORbFREE VARIATION SELECTOR FOUR",
  "bDIGIT ZEROcONEcTWOcTHREEcFOURcFIVEcSIXcSEVENcEIGHTcNINE=1820bLETTER AcEcIcOcUcOEcUEcEEcNA",
  "cANGcBAcPAcQAcGAcMAcLAcSAcSHAcTAcDAcCHAcJAcYAcRAcWAcFAcKAcKHAcTSAcZAcHAAcZRAcLHAcZHIcCHI",
  "cTODO LONG VOWEL SIGNdEdIdOdUdOEdUEdANGdBAdPAdQAdGAdMAdTAdDAdCHAdJAdTSAdYAdWAdKAdGAAdHAAdJIA",
  "dNIAdDZAcSIBE EdIdIYdUEdUdANGdKAdGAdHAdPAdSHAdTAdDAdJAdFAdGAAdHAAdTSAdZAdRAAdCHAdZHAcMANCHU I",
  "dKAdRAdFAdZHAcCHA WITH TWO DOTS=1880cALI GALI ANUSVARA ONEenVISARGAeDAMARUeUBADAMAenINVERTED",
  "eBALUDAenTHREEeAeIeKAeNGAeCAeTTAeTTHAeDDAeNNAeTAeDAePAePHAeSSAeZHAeZAeAHcTODO ALI GALI TAfZHA",
  "cMANCHU ALI GALI GHAfNGAfCAfJHAfTTAfDDHAfTAfDHAfSSAfCYAfZHAfZAcALI GALI HALF UfYA",
  "cMANCHU ALI GALI BHAcALI GALI DAGALGAcMANCHU ALI GALI LHA=18B0aCANADIAN SYLLABICS OYcAYcAAY",
  "cWAYcPOYcPAYcPWOYcTAYcKAYcKWAYcMAYcNOYcNAYcLAYcSOYcSAYcSHOYcSHAYcSHWOYcYOYcYAYcRAYcNWI",
  "cnOJIBWAYcNWIIcnOJIBWAYcNWOcnOJIBWAYcNWOOcnOJIBWAYcRWEEcRWIcRWIIcRWOcRWOOcRWAcOJIBWAY PdTdKdC",
  "dMdNdSdSHcEASTERN WcnWESTERNcFINAL SMALL RINGdRAISED DOTcR-CREE RWEcWEST-CREE LOOdLAAcTHWE",
  "cTHWAcTTHWEcTTHOOcTTHAAcTLHWEcTLHOOcSAYISI SHWEdSHOOdHOOcCARRIER GWUdDENE GEEdGAAdGWA",
  "cSAYISI JUUcCARRIER JWAcBEAVER DENE LeRcCARRIER DENTAL S=1900aLIMBU VOWEL-CARRIER LETTER",
  "bLETTER KAcKHAcGAcGHAcNGAcCAcCHAcJAcJHAcYANcTAcTHAcDAcDHAcNAcPAcPHAcBAcBHAcMAcYAcRAcLAcWAcSHA",
  "cSSAcSAcHAcGYANcTRA=1920bVOWEL SIGN AdIdUdEEdAIdOOdAUdEdObSUBJOINED LETTER YAdRAdWA=1930",
  "bSMALL LETTER KAdNGAdANUSVARAdTAdNAdPAdMAdRAdLAbSIGN MUKPHRENGcKEMPHRENGcSA-I=1940cLOO=1944",
  "bEXCLAMATION MARKbnQUESTIONbDIGIT ZEROcONEcTWOcTHREEcFOURcFIVEcSIXcSEVENcEIGHTcNINE",
  "aTAI LE LETTER KAdXAdNGAdTSAdSAdYAdTAdTHAdLAdPAdPHAdMAdFAdVAdHAdQAdKHAdTSHAdNAdAdIdEEdEHdUdOO",
  "dOdUEdEdAUEdAI=1970dTONE-2+4=1980aNEW TAI LUE LETTER HIGH QAenLOWeHIGH KAfXAfNGAeLOW KAfXA",
  "fNGAeHIGH TSAfSAfYAeLOW TSAfSAfYAeHIGH TAfTHAfNAeLOW TAfTHAfNAeHIGH PAfPHAfMAeLOW PAfPHAfMA",
  "eHIGH FAfVAfLAeLOW FAfVAfLAeHIGH HAfDAfBAeLOW HAfDAfBAeHIGH KVAfXVAeLOW KVAfXVAeHIGH SUAenLOW",
  "=19B0dVOWEL SIGN VOWEL SHORTENERfAAfIIfUfUUfEfAEfOfOAfUEfAYfAAYfUYfOYfOAYfUEYfIY",
  "dLETTER FINAL VfNGfNfMfKfDfBdTONE MARK-1+1=19D0dDIGIT ZEROeONEeTWOeTHREEeFOUReFIVEeSIXeSEVEN",
  "eEIGHTeNINEdTHAM DIGIT ONE=19DEdSIGN LAEeLAEVaKHMER SYMBOL PATHAMASATcMUOY KOETcnPIIcnBEI",
  "cnBUONcnPRAMcnPRAM-MUOYcnPRAM-PIIcnPRAM-BEIcnPRAM-BUONcnDAPcnDAP-MUOYcnDAP-PIIcnDAP-BEI",
  "cnDAP-BUONcnDAP-PRAMcTUTEYASATcMUOY ROCcnPIIcnBEIcnBUONcnPRAMcnPRAM-MUOYcnPRAM-PIIcnPRAM-BEI",
  "cnPRAM-BUONcnDAPcnDAP-MUOYcnDAP-PIIcnDAP-BEIcnDAP-BUONcnDAP-PRAMaBUGINESE LETTER KAcGAcNGA",
  "cNGKAcPAcBAcMAcMPAcTAcDAcNAcNRAcCAcJAcNYAcNYCAcYAcRAcLAcVAcSAcAcHAbVOWEL SIGN IdUdEdOdAE=1A1E",
  "bPALLAWAbEND OF SECTIONaTAI THAM LETTER HIGH KAeKHAeKXAdLOW KAeKXAeKHAdNGAdHIGH CAeCHAdLOW CA",
  "eSAeCHAdNYAdRATAdHIGH RATHAdDAdLOW RATHAdRANAdHIGH TAeTHAdLOW TAeTHAdNAdBAdHIGH PAePHAeFA",
  "dLOW PAeFAePHAdMAdLOW YAdnHIGHdRAdRUEdLAdLUEdWAdHIGH SHAeSSAeSAeHAdLLAdAdLOW HAdIdIIdUdUUdEE",
  "dOOdLAEdGREAT SAcCONSONANT SIGN MEDIAL RAfLAeLA TANG LAIcnSIGN MAI KANG",
  "cCONSONANT SIGN FINAL NGAeLOW PAeoHIGH RATHA OReMAeBAeSA=1A60cSIGN SAKOTcVOWEL SIGN AeMAI SAT",
  "eAAenTALLeIeIIeUEeUUEeUeUUeOeOA BELOWeOYeEeAEeOOeAIenTHAMeOA ABOVEcSIGN MAI KANGdTONE-1+1",
  "dKHUEN TONE-3+2dRA HAAMdMAI SAMdKHUEN-LUE KARAN=1A7FcCOMBINING CRYPTOGRAMMIC DOT",
  "cHORA DIGIT ZEROeONEeTWOeTHREEeFOUReFIVEeSIXeSEVENeEIGHTeNINE=1A90cTHAM DIGIT ZEROeONEeTWO",
  "eTHREEeFOUReFIVEeSIXeSEVENeEIGHTeNINE=1AA0cSIGN WIANGdWIANGWAAKdSAWANdKEOWdHOYdDOKMAI",
  "dREVERSED ROTATED RANAdMAI YAMOKdKAANdKAANKUUdSATKAANdSATKAANKUUdHANGdCAANG=1AB0",
  "aCOMBINING DOUBLED CIRCUMFLEX ACCENTbDIAERESIS-RINGbINFINITYbDOWNWARDS ARROWbTRIPLE DOT",
  "bX-X BELOWbnWIGGLY LINEbnOPEN MARKbpDOUBLEbnLIGHT CENTRALIZATION STROKEbpSTRONG",
  "bPARENTHESES ABOVEboDOUBLEbPARENTHESES BELOWcOVERLAYbLATIN SMALL LETTER W BELOWeoTURNED",
  "bLEFT PARENTHESIS ABOVE LEFTbRIGHT PARENTHESIS ABOVE RIGHTbLEFT PARENTHESIS BELOW LEFT",
  "bRIGHT PARENTHESIS BELOW RIGHTbSQUARE BRACKETS ABOVEbnNUMBER SIGNbnINVERTED DOUBLE ARCH",
  "bnPLUS SIGNbpDOUBLEeBELOWbTRIPLE ACUTE ACCENTbLATIN SMALL LETTER INSULAR GfRfT=1B00",
  "aBALINESE SIGN ULU RICEMdCANDRAcCECEKcSURANGcBISAHbLETTER AKARAdTEDUNGcIKARAdTEDUNGcUKARA",
  "dTEDUNGcRA REPAeTEDUNGcLA LENGAeTEDUNGcEKARAcAIKARAcOKARAdTEDUNGcKAdMAHAPRANAcGAdGORAcNGAcCA",
  "dLACAcJAdJERAcNYAcTA LATIKdMURDA MAHAPRANAcDA MURDA ALPAPRANAeMAHAPRANAcNA RAMBATcTAdTAWAcDA",
  "dMADUcNAcPAdKAPALcBAdKEMBANGcMAcYAcRAcLAcWAcSA SAGAdSAPAdcHAbSIGN REREKANbVOWEL SIGN TEDUNG",
  "dULUeSARIdSUKUeILUTdRA REPAfTEDUNGdLA LENGAfTEDUNGdTALINGeREPAeTEDUNGenREPAdPEPETeTEDUNG",
  "bADEG ADEGbLETTER KAF SASAKcnKHOTcnTZIRcnEFcnVEcnZALcnASYURAcARCHAIC JNYA=1B50bDIGIT ZEROcONE",
  "cTWOcTHREEcFOURcFIVEcSIXcSEVENcEIGHTcNINEbPANTIbPAMADAbWINDUbCARIK PAMUNGKAHcSIKIcPAREREN",
  "bPAMENENGbMUSICAL SYMBOL DONGdDENGdDUNGdDANGeSURANGdDINGdDAENGdDEUNGdDAINGdDANG GEDE",
  "dCOMBINING TEGEHeENDEPeKEMPULeKEMPLIeJEGOGANenKEMPUL WITHeoKEMPLIeBENDEeGONG",
  "dRIGHT-HAND OPEN DUGfDAGeCLOSED TUKfTAKdLEFT-HAND OPEN PANGfPUNGeCLOSED PLAKfPLUKeOPEN PING",
  "bPANTI LANTANGbnPAMADA=1B80aSUNDANESE SIGN PANYECEKcPANGLAYARcPANGWISADbLETTER AcIcUcAEcOcE",
  "cEUcKAcQAcGAcNGAcCAcJAcZAcNYAcTAcDAcNAcPAcFAcVAcBAcMAcYAcRAcLAcWAcSAcXAcHA",
  "bCONSONANT SIGN PAMINGKALdPANYAKRAdPANYIKUbVOWEL SIGN PANGHULUdPANYUKUdPANAELAENGdPANOLONG",
  "dPAMEPETdPANEULEUNGbSIGN PAMAAEHcVIRAMAbCONSONANT SIGN PASANGAN MAeWAbLETTER KHAcSYA",
  "bDIGIT ZEROcONEcTWOcTHREEcFOURcFIVEcSIXcSEVENcEIGHTcNINEbAVAGRAHAbLETTER REUcLEUcBHAcFINAL K",
  "dMaBATAK LETTER AcnSIMALUNGUNcHAcnSIMALUNGUNcnMANDAILINGcBAcnKAROcPAcnSIMALUNGUNcNA",
  "cnMANDAILINGcWAcnSIMALUNGUNcnPAKPAKcGAcnSIMALUNGUNcJAcDAcRAcnSIMALUNGUNcMAcnSIMALUNGUN",
  "cSOUTHERN TAcnNORTHERNcSAcnSIMALUNGUNcnMANDAILINGcYAcnSIMALUNGUNcNGAcLAcnSIMALUNGUNcNYAcCA",
  "cNDAcMBAcIcUbSIGN TOMPIbVOWEL SIGN EdnPAKPAKdEEdIdnKAROdOdnKAROdUeFOR SIMALUNGUN SA",
  "bCONSONANT SIGN NGdHbPANGOLATbPANONGONAN=1BFCbSYMBOL BINDU NA METEKdPINARBORASdJUDULdPANGOLAT",
  "aLEPCHA LETTER KAcKLAcKHAcGAcGLAcNGAcCAcCHAcJAcNYAcTAcTHAcDAcNAcPAcPLAcPHAcFAcFLAcBAcBLAcMA",
  "cMLAcTSAcTSHAcDZAcYAcRAcLAcHAcHLAcVAcSAcSHAcWAcAbSUBJOINED LETTER YAdRAbVOWEL SIGN AAdIdOdOO",
  "dUdUUdEbCONSONANT SIGN KdMdLdNdPdRdTdNYIN-DOdKANGbSIGN RANcNUKTA=1C3BbPUNCTUATION TA-ROL",
  "cnNYET THYOOMcCER-WAcnTSHOOKdbDIGIT ZEROcONEcTWOcTHREEcFOURcFIVEcSIXcSEVENcEIGHTcNINE=1C4D",
  "bLETTER TTAcTTHAcDDAaOL CHIKI DIGIT ZEROdONEdTWOdTHREEdFOURdFIVEdSIXdSEVENdEIGHTdNINE",
  "cLETTER LAdATdAGdANGdALdLAAdAAKdAAJdAAMdAAWdLIdISdIHdINYdIRdLUdUCdUDdUNNdUYdLEdEPdEDDdENdERR",
  "dLOdOTTdOBdOVdOHcMU TTUDDAGcGAAHLAA TTUDDAAGcnMU-GAAHLAAcRELAAcPHAARKAAcAHAD",
  "cPUNCTUATION MUCAADdnDOUBLEaCYRILLIC SMALL LETTER ROUNDED VEdLONG-LEGGED DEdNARROW OdWIDE ES",
  "dTALL TEdnTHREE-LEGGEDdTALL HARD SIGNeYATdUNBLENDED UK=1C90",
  "aGEORGIAN MTAVRULI CAPITAL LETTER ANeBANeGANeDONeENeVINeZENeTANeINeKANeLASeMANeNAReONePAR",
  "eZHAReRAEeSANeTAReUNePHAReKHAReGHANeQAReSHINeCHINeCANeJILeCILeCHAReXANeJHANeHAEeHEeHIEeWEeHAR",
  "eHOEeFIeYNeELIFIeTURNED GANeAIN=1CBDeAENeHARD SIGNenLABIALaSUNDANESE PUNCTUATION BINDU SURYA",
  "dPANGLONGdPURNAMAdCAKRAdLEU SATANGAdnKAdnDAdnBA=1CD0aVEDIC TONE KARSHANAcSHARAcPRENKHA",
  "bSIGN NIHSHVASAcYAJURVEDIC MIDLINE SVARITAbnTONE YAJURVEDIC AGGRAVATED INDEPENDENTdodoKATHAKA",
  "cCANDRA BELOWcYAJURVEDIC KATHAKA INDEPENDENT SVARITA SCHROEDERcDOUBLE SVARITAcnTRIPLE",
  "cKATHAKA ANUDATTAcDOT BELOWcnTWO DOTScoTHREEcRIGVEDIC KASHMIRI INDEPENDENT SVARITA",
  "coATHARVAVEDICbnSIGN VISARGAdUDATTAcoREVERSEDcVISARGA ANUDATTAcoREVERSED",
  "cVISARGA UDATTA WITH TAILdoANUDATTAcANUSVARA ANTARGOMUKHAdBAHIRGOMUKHAdVAMAGOMUKHAeWITH TAIL",
  "cTIRYAKcHEXIFORM LONG ANUSVARAcocoRTHANGcANUSVARA UBHAYATO MUKHAcARDHAVISARGAcnROTATED",
  "bTONE CANDRA ABOVEbSIGN JIHVAMULIYAcUPADHMANIYAcATIKRAMAbTONE RING ABOVEcoDOUBLE",
  "bSIGN DOUBLE ANUSVARA ANTARGOMUKHA=1D00aLATIN LETTER SMALL CAPITAL AeAEbnSMALL LETTER TURNED",
  "bLETTER SMALL CAPITAL BARRED BeCeDeETHeEbnSMALL LETTER TURNED OPENeIbLETTER SMALL CAPITAL JeK",
  "eL WITH STROKEeMeREVERSED NeOenOPENbnSMALL LETTER SIDEWAYSenOPENeO WITH STROKEdTURNED OE",
  "bLETTER SMALL CAPITAL OUbSMALL LETTER TOP HALF OdoBOTTOMbLETTER SMALL CAPITAL PeREVERSED R",
  "enTURNEDeTeUbnSMALL LETTER SIDEWAYSenDIAERESIZEDeTURNED MbLETTER SMALL CAPITAL VeWeZeEZH",
  "cVOICED LARYNGEAL SPIRANTcAINaGREEK LETTER SMALL CAPITAL GAMMAeLAMDAePIeRHOePSI",
  "aCYRILLIC LETTER SMALL CAPITAL ELaMODIFIER LETTER CAPITAL AdAEdBdnBARREDdDdEdnREVERSEDdGdHdI",
  "dJdKdLdMdNdnREVERSEDdOdOUdPdRdTdUdWcSMALL AdnTURNEDdALPHAdTURNED AEdBdDdEdSCHWAdOPEN E",
  "doTURNEDdGdTURNED IdKdMdENGdOdnOPENdnTOP HALFdoBOTTOMdPdTdUdnSIDEWAYSdTURNED MdVdAINdBETA",
  "dGREEK GAMMAdDELTAdGREEK PHIdCHIaLATIN SUBSCRIPT SMALL LETTER IeReUeV",
  "aGREEK SUBSCRIPT SMALL LETTER BETAeGAMMAeRHOePHIeCHIaLATIN SMALL LETTER UE",
  "dB WITH MIDDLE TILDEdpDdpFdpMdpNdpPdpRfoFISHHOOK ANDdoS WITHdpTdpZdTURNED G",
  "aMODIFIER LETTER CYRILLIC ENaLATIN SMALL LETTER INSULAR GdTH WITH STRIKETHROUGH",
  "cCAPITAL LETTER I WITH STROKEcoLETTER IOTAdoPcoCAPITAL LETTER UcoLETTER UPSILON",
  "dB WITH PALATAL HOOKdpDdpFdpGdpKdpLdpMdpNdpPdpRdpSdpESHdpVdpXdpZdnA WITH RETROFLEXdpALPHA",
  "dD WITH HOOK AND TAILdE WITH RETROFLEX HOOKdqOPENdrREVERSEDdpSCHWAdpIdpOPEN OdpESHdpUdpEZH",
  "aMODIFIER LETTER SMALL TURNED ALPHAdCeWITH CURLdETHdREVERSED OPEN EdFdDOTLESS J WITH STROKE",
  "dSCRIPT GdTURNED HdI WITH STROKEdIOTAdCAPITAL IfWITH STROKEdJ WITH CROSSED-TAIL",
  "dL WITH RETROFLEX HOOKfnPALATALdCAPITAL LdM WITH HOOKdTURNED M WITH LONG LEGdN WITH LEFT HOOK",
  "fnRETROFLEXdCAPITAL NdBARRED OdPHIdS WITH HOOKdESHdT WITH PALATAL HOOKdU BARdUPSILON",
  "dCAPITAL UdV WITH HOOKdTURNED VdZeWITH RETROFLEX HOOKfCURLdEZHdTHETA",
  "aCOMBINING DOTTED GRAVE ACCENTcnACUTEbSNAKE BELOWbSUSPENSION MARKbMACRON-ACUTEbGRAVE-MACRON",
  "bMACRON-GRAVEbACUTE-MACRONbGRAVE-ACUTE-GRAVEbACUTE-GRAVE-ACUTEbLATIN SMALL LETTER R BELOW",
  "bBREVE-MACRONbMACRON-BREVEbDOUBLE CIRCUMFLEX ABOVEbnOGONEKbZIGZAG BELOWbnISbUR ABOVEbnUS",
  "bnLATIN SMALL LETTER FLATTENED OPEN AeAEeAOeAVeC CEDILLAeINSULAR DeETHeG",
  "cnLETTER SMALL CAPITALcSMALL LETTER KeLcnLETTER SMALL CAPITALfMcSMALL LETTER N",
  "cnLETTER SMALL CAPITALfRcSMALL LETTER R ROTUNDAeSenLONGeZeALPHAeBeBETAeSCHWAeF",
  "eL WITH DOUBLE MIDDLE TILDEeO WITH LIGHT CENTRALIZATION STROKEePeESH",
  "eU WITH LIGHT CENTRALIZATION STROKEeWeA WITH DIAERESISeoOeoUbUP TACK ABOVEbKAVYKA ABOVE RIGHT",
  "dLEFTboDOTbWIDE INVERTED BRIDGE BELOWbDOT BELOW LEFTbDELETION MARK",
  "bDOUBLE INVERTED BREVE BELOWbnALMOST EQUAL TObLEFT ARROWHEAD ABOVE",
  "bRIGHT ARROWHEAD AND DOWN ARROWHEAD BELOWanLATIN CAPITAL LETTER A WITH RINGbrSMALL",
  "bCAPITAL LETTER B WITH DOT ABOVEbrSMALLbCAPITAL LETTER B WITH DOT BELOWbrSMALL",
  "bnCAPITAL LETTER B WITH LINEbrSMALLbCAPITAL LETTER C WITH CEDILLA AND ACUTEbsSMALL",
  "bCAPITAL LETTER D WITH DOT ABOVEbrSMALLbCAPITAL LETTER D WITH DOT BELOWbrSMALL",
  "bnCAPITAL LETTER D WITH LINEbrSMALLbCAPITAL LETTER D WITH CEDILLAbqSMALL",
  "bCAPITAL LETTER D WITH CIRCUMFLEX BELOWbrSMALLbCAPITAL LETTER E WITH MACRON AND GRAVEbsSMALL",
  "bCAPITAL LETTER E WITH MACRON AND ACUTEbsSMALLbCAPITAL LETTER E WITH CIRCUMFLEX BELOWbrSMALL",
  "bnCAPITAL LETTER E WITH TILDEbrSMALLbCAPITAL LETTER E WITH CEDILLA AND BREVEbsSMALL",
  "bCAPITAL LETTER F WITH DOT ABOVEbrSMALLbCAPITAL LETTER G WITH MACRONbqSMALL",
  "bCAPITAL LETTER H WITH DOT ABOVEbrSMALLbCAPITAL LETTER H WITH DOT BELOWbrSMALL",
  "bCAPITAL LETTER H WITH DIAERESISbqSMALLbCAPITAL LETTER H WITH CEDILLAbqSMALL",
  "bCAPITAL LETTER H WITH BREVE BELOWbrSMALLbnCAPITAL LETTER I WITH TILDEbrSMALL",
  "bCAPITAL LETTER I WITH DIAERESIS AND ACUTEbsSMALLbnCAPITAL LETTER K WITHbqSMALL",
  "bCAPITAL LETTER K WITH DOT BELOWbrSMALLbnCAPITAL LETTER K WITH LINEbrSMALL",
  "bnCAPITAL LETTER L WITH DOTbrSMALLbCAPITAL LETTER L WITH DOT BELOW AND MACRONbtSMALL",
  "bCAPITAL LETTER L WITH LINE BELOWbrSMALLbnCAPITAL LETTER L WITH CIRCUMFLEXbrSMALL",
  "bCAPITAL LETTER M WITH ACUTEbqSMALLbCAPITAL LETTER M WITH DOT ABOVEbrSMALL",
  "bCAPITAL LETTER M WITH DOT BELOWbrSMALLbCAPITAL LETTER N WITH DOT ABOVEbrSMALL",
  "bCAPITAL LETTER N WITH DOT BELOWbrSMALLbnCAPITAL LETTER N WITH LINEbrSMALL",
  "bnCAPITAL LETTER N WITH CIRCUMFLEXbrSMALLbCAPITAL LETTER O WITH TILDE AND ACUTEbsSMALL",
  "bCAPITAL LETTER O WITH TILDE AND DIAERESISbsSMALLbCAPITAL LETTER O WITH MACRON AND GRAVE",
  "bsSMALLbCAPITAL LETTER O WITH MACRON AND ACUTEbsSMALLbnCAPITAL LETTER P WITHbqSMALL",
  "bCAPITAL LETTER P WITH DOT ABOVEbrSMALLbpCAPITAL LETTER RbrSMALL",
  "bCAPITAL LETTER R WITH DOT BELOWbrSMALLbCAPITAL LETTER R WITH DOT BELOW AND MACRONbtSMALL",
  "bCAPITAL LETTER R WITH LINE BELOWbrSMALLbCAPITAL LETTER S WITH DOT ABOVEbrSMALL",
  "bCAPITAL LETTER S WITH DOT BELOWbrSMALLbCAPITAL LETTER S WITH ACUTE AND DOT ABOVEbtSMALL",
  "bpCAPITAL LETTER S WITH CARONbtSMALLbpCAPITAL LETTER S WITH DOT BELOWbuSMALL",
  "boCAPITAL LETTER T WITHbrSMALLbCAPITAL LETTER T WITH DOT BELOWbrSMALL",
  "bnCAPITAL LETTER T WITH LINEbrSMALLbnCAPITAL LETTER T WITH CIRCUMFLEXbrSMALL",
  "bnCAPITAL LETTER U WITH DIAERESISbrSMALLbnCAPITAL LETTER U WITH TILDEbrSMALL",
  "bnCAPITAL LETTER U WITH CIRCUMFLEXbrSMALLbCAPITAL LETTER U WITH TILDE AND ACUTEbsSMALL",
  "bCAPITAL LETTER U WITH MACRON AND DIAERESISbsSMALLbCAPITAL LETTER V WITH TILDEbqSMALL",
  "bCAPITAL LETTER V WITH DOT BELOWbrSMALLbCAPITAL LETTER W WITH GRAVEbqSMALL",
  "bCAPITAL LETTER W WITH ACUTEbqSMALLbCAPITAL LETTER W WITH DIAERESISbqSMALL",
  "bCAPITAL LETTER W WITH DOT ABOVEbrSMALLbCAPITAL LETTER W WITH DOT BELOWbrSMALL",
  "bCAPITAL LETTER X WITH DOT ABOVEbrSMALLbCAPITAL LETTER X WITH DIAERESISbqSMALL",
  "bCAPITAL LETTER Y WITH DOT ABOVEbrSMALLbCAPITAL LETTER Z WITH CIRCUMFLEXbqSMALL",
  "bCAPITAL LETTER Z WITH DOT BELOWbrSMALLbnCAPITAL LETTER Z WITH LINEbrSMALLdpH",
  "dT WITH DIAERESISdW WITH RING ABOVEdpYdA WITH RIGHT HALF RINGdLONG S WITH DOT ABOVE",
  "gDIAGONAL STROKEgnHIGHbCAPITAL LETTER SHARP SbSMALL LETTER DELTA",
  "bCAPITAL LETTER A WITH DOT BELOWbrSMALLbCAPITAL LETTER A WITH HOOK ABOVEbrSMALL",
  "bCAPITAL LETTER A WITH CIRCUMFLEX AND ACUTEbsSMALLbCAPITAL LETTER A WITH CIRCUMFLEX AND GRAVE",
  "bsSMALLbCAPITAL LETTER A WITH CIRCUMFLEX AND HOOK ABOVEbtSMALL",
  "bCAPITAL LETTER A WITH CIRCUMFLEX AND TILDEbsSMALL",
  "bCAPITAL LETTER A WITH CIRCUMFLEX AND DOT BELOWbtSMALLbCAPITAL LETTER A WITH BREVE AND ACUTE",
  "bsSMALLbCAPITAL LETTER A WITH BREVE AND GRAVEbsSMALL",
  "bCAPITAL LETTER A WITH BREVE AND HOOK ABOVEbtSMALLbCAPITAL LETTER A WITH BREVE AND TILDE",
  "bsSMALLbCAPITAL LETTER A WITH BREVE AND DOT BELOWbtSMALLboCAPITAL LETTER E WITHbrSMALL",
  "bCAPITAL LETTER E WITH HOOK ABOVEbrSMALLbCAPITAL LETTER E WITH TILDEbqSMALL",
  "bCAPITAL LETTER E WITH CIRCUMFLEX AND ACUTEbsSMALLbCAPITAL LETTER E WITH CIRCUMFLEX AND GRAVE",
  "bsSMALLbCAPITAL LETTER E WITH CIRCUMFLEX AND HOOK ABOVEbtSMALL",
  "bCAPITAL LETTER E WITH CIRCUMFLEX AND TILDEbsSMALL",
  "bCAPITAL LETTER E WITH CIRCUMFLEX AND DOT BELOWbtSMALLbCAPITAL LETTER I WITH HOOK ABOVE",
  "brSMALLbCAPITAL LETTER I WITH DOT BELOWbrSMALLbpCAPITAL LETTER ObrSMALL",
  "bCAPITAL LETTER O WITH HOOK ABOVEbrSMALLbCAPITAL LETTER O WITH CIRCUMFLEX AND ACUTEbsSMALL",
  "bCAPITAL LETTER O WITH CIRCUMFLEX AND GRAVEbsSMALL",
  "bCAPITAL LETTER O WITH CIRCUMFLEX AND HOOK ABOVEbtSMALL",
  "bCAPITAL LETTER O WITH CIRCUMFLEX AND TILDEbsSMALL",
  "bCAPITAL LETTER O WITH CIRCUMFLEX AND DOT BELOWbtSMALLbCAPITAL LETTER O WITH HORN AND ACUTE",
  "bsSMALLbCAPITAL LETTER O WITH HORN AND GRAVEbsSMALLbCAPITAL LETTER O WITH HORN AND HOOK ABOVE",
  "btSMALLbCAPITAL LETTER O WITH HORN AND TILDEbsSMALLbCAPITAL LETTER O WITH HORN AND DOT BELOW",
  "btSMALLboCAPITAL LETTER U WITHbrSMALLbCAPITAL LETTER U WITH HOOK ABOVEbrSMALL",
  "bCAPITAL LETTER U WITH HORN AND ACUTEbsSMALLbCAPITAL LETTER U WITH HORN AND GRAVEbsSMALL",
  "bCAPITAL LETTER U WITH HORN AND HOOK ABOVEbtSMALLbCAPITAL LETTER U WITH HORN AND TILDEbsSMALL",
  "bCAPITAL LETTER U WITH HORN AND DOT BELOWbtSMALLbCAPITAL LETTER Y WITH GRAVEbqSMALL",
  "bCAPITAL LETTER Y WITH DOT BELOWbrSMALLbCAPITAL LETTER Y WITH HOOK ABOVEbrSMALL",
  "bCAPITAL LETTER Y WITH TILDEbqSMALLbCAPITAL LETTER MIDDLE-WELSH LLbpSMALL",
  "bCAPITAL LETTER MIDDLE-WELSH VbpSMALLbCAPITAL LETTER Y WITH LOOPbqSMALL",
  "aGREEK SMALL LETTER ALPHA WITH PSILIfDASIAfPSILI AND VARIAfoDASIAfPSILI AND OXIAfoDASIA",
  "fPSILI AND PERISPOMENIfoDASIAbCAPITAL LETTER ALPHA WITH PSILIfDASIAfPSILI AND VARIAfoDASIA",
  "fPSILI AND OXIAfoDASIAfPSILI AND PERISPOMENIfoDASIAbSMALL LETTER EPSILON WITH PSILIfDASIA",
  "fPSILI AND VARIAfoDASIAfPSILI AND OXIAfoDASIA=1F18bCAPITAL LETTER EPSILON WITH PSILIfDASIA",
  "fPSILI AND VARIAfoDASIAfPSILI AND OXIAfoDASIA=1F20bSMALL LETTER ETA WITH PSILIfDASIA",
  "fPSILI AND VARIAfoDASIAfPSILI AND OXIAfoDASIAfPSILI AND PERISPOMENIfoDASIA",
  "bCAPITAL LETTER ETA WITH PSILIfDASIAfPSILI AND VARIAfoDASIAfPSILI AND OXIAfoDASIA",
  "fPSILI AND PERISPOMENIfoDASIAbSMALL LETTER IOTA WITH PSILIfDASIAfPSILI AND VARIAfoDASIA",
  "fPSILI AND OXIAfoDASIAfPSILI AND PERISPOMENIfoDASIAbCAPITAL LETTER IOTA WITH PSILIfDASIA",
  "fPSILI AND VARIAfoDASIAfPSILI AND OXIAfoDASIAfPSILI AND PERISPOMENIfoDASIA",
  "bSMALL LETTER OMICRON WITH PSILIfDASIAfPSILI AND VARIAfoDASIAfPSILI AND OXIAfoDASIA=1F48",
  "bCAPITAL LETTER OMICRON WITH PSILIfDASIAfPSILI AND VARIAfoDASIAfPSILI AND OXIAfoDASIA=1F50",
  "bSMALL LETTER UPSILON WITH PSILIfDASIAfPSILI AND VARIAfoDASIAfPSILI AND OXIAfoDASIA",
  "fPSILI AND PERISPOMENIfoDASIA=1F59bCAPITAL LETTER UPSILON WITH DASIA=1F5BgAND VARIA=1F5DhOXIA",
  "=1F5FhPERISPOMENIbSMALL LETTER OMEGA WITH PSILIfDASIAfPSILI AND VARIAfoDASIAfPSILI AND OXIA",
  "foDASIAfPSILI AND PERISPOMENIfoDASIAbCAPITAL LETTER OMEGA WITH PSILIfDASIAfPSILI AND VARIA",
  "foDASIAfPSILI AND OXIAfoDASIAfPSILI AND PERISPOMENIfoDASIAbSMALL LETTER ALPHA WITH VARIAfOXIA",
  "dEPSILON WITH VARIAfOXIAdETA WITH VARIAfOXIAdIOTA WITH VARIAfOXIAdOMICRON WITH VARIAfOXIA",
  "dUPSILON WITH VARIAfOXIAdOMEGA WITH VARIAfOXIA=1F80dALPHA WITH PSILI AND YPOGEGRAMMENIfoDASIA",
  "foPSILI AND VARIAfqDASIAfoPSILI AND OXIAfqDASIAfoPSILI AND PERISPOMENIfqDASIA",
  "bCAPITAL LETTER ALPHA WITH PSILI AND PROSGEGRAMMENIfoDASIAfoPSILI AND VARIAfqDASIA",
  "foPSILI AND OXIAfqDASIAfoPSILI AND PERISPOMENIfqDASIA",
  "bSMALL LETTER ETA WITH PSILI AND YPOGEGRAMMENIfoDASIAfoPSILI AND VARIAfqDASIAfoPSILI AND OXIA",
  "fqDASIAfoPSILI AND PERISPOMENIfqDASIAbCAPITAL LETTER ETA WITH PSILI AND PROSGEGRAMMENIfoDASIA",
  "foPSILI AND VARIAfqDASIAfoPSILI AND OXIAfqDASIAfoPSILI AND PERISPOMENIfqDASIA",
  "bSMALL LETTER OMEGA WITH PSILI AND YPOGEGRAMMENIfoDASIAfoPSILI AND VARIAfqDASIA",
  "foPSILI AND OXIAfqDASIAfoPSILI AND PERISPOMENIfqDASIA",
  "bCAPITAL LETTER OMEGA WITH PSILI AND PROSGEGRAMMENIfoDASIAfoPSILI AND VARIAfqDASIA",
  "foPSILI AND OXIAfqDASIAfoPSILI AND PERISPOMENIfqDASIAbSMALL LETTER ALPHA WITH VRACHYfMACRON",
  "fVARIA AND YPOGEGRAMMENIfnfnOXIA AND=1FB6fPERISPOMENIgAND YPOGEGRAMMENI",
  "bCAPITAL LETTER ALPHA WITH VRACHYfMACRONfVARIAfOXIAfPROSGEGRAMMENIbKORONISbPROSGEGRAMMENI",
  "bPSILIbPERISPOMENIbnDIALYTIKA ANDbSMALL LETTER ETA WITH VARIA AND YPOGEGRAMMENIfnfnOXIA AND",
  "=1FC6fPERISPOMENIgAND YPOGEGRAMMENIbCAPITAL LETTER EPSILON WITH VARIAfOXIAdETA WITH VARIA",
  "fOXIAfPROSGEGRAMMENIbPSILI AND VARIAdOXIAdPERISPOMENIbSMALL LETTER IOTA WITH VRACHYfMACRON",
  "fDIALYTIKA AND VARIAhOXIA=1FD6fPERISPOMENIfnDIALYTIKA ANDbCAPITAL LETTER IOTA WITH VRACHY",
  "fMACRONfVARIAfOXIA=1FDDbDASIA AND VARIAdOXIAdPERISPOMENIbSMALL LETTER UPSILON WITH VRACHY",
  "fMACRONfDIALYTIKA AND VARIAhOXIAdRHO WITH PSILIfDASIAdUPSILON WITH PERISPOMENIfnDIALYTIKA AND",
  "bCAPITAL LETTER UPSILON WITH VRACHYfMACRONfVARIAfOXIAdRHO WITH DASIAbDIALYTIKA AND VARIAdOXIA",
  "bVARIA=1FF2bSMALL LETTER OMEGA WITH VARIA AND YPOGEGRAMMENIfnfnOXIA AND=1FF6fPERISPOMENI",
  "gAND YPOGEGRAMMENIbCAPITAL LETTER OMICRON WITH VARIAfOXIAdOMEGA WITH VARIAfOXIA",
  "fPROSGEGRAMMENIbOXIAbDASIA"
]

end ApiRouter.Text.Name
