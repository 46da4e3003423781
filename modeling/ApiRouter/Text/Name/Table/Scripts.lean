set_option autoImplicit false

/-! # Names of characters

Arabic, Syriac and their relatives, the scripts of India and Tibet, and those from Myanmar, Georgia,
Korea and Ethiopia to the syllables of Canada. -/

namespace ApiRouter.Text.Name

/-- The names of the characters from 600 to 8FF. -/
def semitic : List String := [
  "=600aARABIC NUMBER SIGNbSIGN SANAHbFOOTNOTE MARKERbSIGN SAFHAcSAMVATbNUMBER MARK ABOVE",
  "aARABIC-INDIC CUBE ROOTbnFOURTHaARABIC RAYaARABIC-INDIC PER MILLE SIGNcnTEN THOUSANDanAFGHANI",
  "aARABIC COMMAbDATE SEPARATORbPOETIC VERSE SIGNbSIGN MISRAcSALLALLAHOU ALAYHE WASSALLAM",
  "cALAYHE ASSALLAMcRAHMATULLAH ALAYHEcRADI ALLAHOU ANHUcTAKHALLUSbSMALL HIGH TAH",
  "dLIGATURE ALEF WITH LAM WITH YEHdZAINcFATHAcDAMMAcKASRAbSEMICOLONbLETTER MARKbnEND OF TEXT",
  "bnTRIPLE DOT PUNCTUATIONbnQUESTIONbLETTER KASHMIRI YEHcHAMZAcALEF WITH MADDA ABOVEenHAMZA",
  "cpWAWcALEF WITH HAMZA BELOWcYEH WITH HAMZA ABOVEcALEFcBEHcTEH MARBUTAdcTHEHcJEEMcHAHcKHAHcDAL",
  "cTHALcREHcZAINcSEENcSHEENcSADcDADcTAHcZAHcAINcGHAINcKEHEH WITH TWO DOTS ABOVE",
  "eTHREE DOTS BELOWcFARSI YEH WITH INVERTED VfTWO DOTS ABOVEfoTHREEbTATWEELbLETTER FEHcQAFcKAF",
  "cLAMcMEEMcNOONcHEHcWAWcALEF MAKSURAcYEHbFATHATANbDAMMATANbKASRATANbFATHAbDAMMAbKASRAbSHADDA",
  "bSUKUNbMADDAH ABOVEbnHAMZAcBELOWbSUBSCRIPT ALEFbINVERTED DAMMAbMARK NOON GHUNNAbZWARAKAY",
  "bVOWEL SIGN SMALL V ABOVEdpINVERTEDdDOT BELOWbREVERSED DAMMAbFATHA WITH TWO DOTS",
  "bWAVY HAMZA BELOWaARABIC-INDIC DIGIT ZEROcONEcTWOcTHREEcFOURcFIVEcSIXcSEVENcEIGHTcNINE",
  "aARABIC PERCENT SIGNbDECIMAL SEPARATORbnTHOUSANDSbFIVE POINTED STARbLETTER DOTLESS BEHdQAF",
  "cSUPERSCRIPT ALEFcALEF WASLAdWITH WAVY HAMZA ABOVEgBELOWcHIGH HAMZAeALEFeWAW",
  "cU WITH HAMZA ABOVEcHIGH HAMZA YEHcTTEHcTTEHEHcBEEHcTEH WITH RINGeTHREE DOTS ABOVE DOWNWARDS",
  "cPEHcTEHEHcBEHEHcHAH WITH HAMZA ABOVEenTWO DOTS VERTICALcNYEHcDYEHcHAH WITH THREE DOTS ABOVE",
  "cTCHEHcTCHEHEHcDDALcDAL WITH RINGeDOT BELOWgAND SMALL TAHcDAHALcDDAHALcDUL",
  "cDAL WITH THREE DOTS ABOVE DOWNWARDSeFOUR DOTS ABOVEcRREHcREH WITH SMALL VeRINGeDOT BELOW",
  "enSMALL VeDOT BELOW AND DOT ABOVEenTWO DOTScJEHcREH WITH FOUR DOTS ABOVE",
  "cnSEEN WITH DOT BELOW AND DOTeTHREE DOTS BELOWhAND THREE DOTS ABOVEcSAD WITH TWO DOTS BELOW",
  "eTHREE DOTS ABOVEcqTAHcqAINcDOTLESS FEHcFEH WITH DOT MOVED BELOWfncVEH",
  "cFEH WITH THREE DOTS BELOWcPEHEHcQAF WITH DOT ABOVEenTHREE DOTScKEHEHcSWASH KAFcKAF WITH RING",
  "eDOT ABOVEcNGcKAF WITH THREE DOTS BELOWcGAFdWITH RINGcNGOEHcGAF WITH TWO DOTS BELOWcGUEH",
  "cGAF WITH THREE DOTS ABOVEcLAM WITH SMALL VeDOT ABOVEenTHREE DOTSgBELOWcnNOON WITH DOTdGHUNNA",
  "cRNOONcNOON WITH RINGeTHREE DOTS ABOVEcHEH DOACHASHMEEcTCHEH WITH DOT ABOVEcnHEH WITH YEH",
  "dGOALeWITH HAMZA ABOVEcTEH MARBUTA GOALcWAW WITH RINGcKIRGHIZ OEcncUcYUcnKIRGHIZ",
  "cWAW WITH TWO DOTS ABOVEcVEcFARSI YEHcYEH WITH TAILeSMALL VcWAW WITH DOT ABOVEcE",
  "cYEH WITH THREE DOTS BELOWdBARREEeWITH HAMZA ABOVEbFULL STOPbLETTER AE",
  "bSMALL HIGH LIGATURE SAD WITH LAM WITH ALEF MAKSURAerQAFdMEEM INITIAL FORMdLAM ALEFdJEEM",
  "dTHREE DOTSdSEENbEND OF AYAHbSTART OF RUB EL HIZBbSMALL HIGH ROUNDED ZERO",
  "dnUPRIGHT RECTANGULARdDOTLESS HEAD OF KHAHdMEEM ISOLATED FORMcLOW SEENcHIGH MADDAcWAWcYEH",
  "cnHIGHdNOONbPLACE OF SAJDAHbEMPTY CENTRE LOW STOPdnHIGHbROUNDED HIGH STOP WITH FILLED CENTRE",
  "bSMALL LOW MEEMbLETTER DAL WITH INVERTED VcpREHaEXTENDED ARABIC-INDIC DIGIT ZEROdONEdTWO",
  "dTHREEdFOURdFIVEdSIXdSEVENdEIGHTdNINEaARABIC LETTER SHEEN WITH DOT BELOWcpDADcpGHAIN",
  "bSIGN SINDHI AMPERSANDdPOSTPOSITION MENbLETTER HEH WITH INVERTED VaSYRIAC END OF PARAGRAPH",
  "bSUPRALINEAR FULL STOPboSUBLINEARbSUPRALINEAR COLONbnSUBLINEARbnHORIZONTALbCOLON SKEWED LEFT",
  "dRIGHTbSUPRALINEAR COLON SKEWED LEFTbSUBLINEAR COLON SKEWED RIGHTbCONTRACTIONbHARKLEAN OBELUS",
  "cMETOBELUScASTERISCUS=70FbABBREVIATION MARKbLETTER ALAPHcnSUPERSCRIPTcBETHcGAMALdGARSHUNI",
  "cDALATHcDOTLESS DALATH RISHcHEcWAWcZAINcHETHcTETHdGARSHUNIcYUDHdHEcKAPHcLAMADHcMIMcNUN",
  "cSEMKATHcnFINALcEcPEcnREVERSEDcSADHEcQAPHcRISHcSHINcTAWcPERSIAN BHETHdGHAMALdDHALATH",
  "bPTHAHA ABOVEcBELOWcDOTTEDbZQAPHA ABOVEcBELOWcDOTTEDbRBASA ABOVEcBELOW",
  "bDOTTED ZLAMA HORIZONTALdANGULARbHBASA ABOVEcBELOWbHBASA-ESASA DOTTEDbESASA ABOVEcBELOWbRWAHA",
  "bFEMININE DOTbQUSHSHAYAbRUKKAKHAbTWO VERTICAL DOTS ABOVEeBELOWbTHREE DOTS ABOVEdBELOW",
  "bOBLIQUE LINE ABOVEdBELOWbMUSICbBARREKH=74DbLETTER SOGDIAN ZHAINdKHAPHdFE",
  "aARABIC LETTER BEH WITH THREE DOTS HORIZONTALLY BELOWeDOT BELOW AND THREE DOTS ABOVE",
  "eTHREE DOTS POINTING UPWARDS BELOWjAND TWO DOTS ABOVEenTWO DOTS BELOW AND DOT",
  "eINVERTED SMALL V BELOWeSMALL VcHAH WITH TWO DOTS ABOVEeTHREE DOTS POINTING UPWARDS BELOW",
  "cDAL WITH TWO DOTS VERTICALLY BELOW AND SMALL TAHeINVERTED SMALL V BELOWcREH WITH STROKE",
  "cSEEN WITH FOUR DOTS ABOVEcoAIN WITH TWOenTHREE DOTS POINTING DOWNWARDSenTWO DOTS VERTICALLY",
  "cFEH WITH TWO DOTS BELOWenTHREE DOTS POINTING UPWARDScKEHEH WITH DOT ABOVEenTHREE DOTS",
  "gPOINTING UPWARDS BELOWcMEEM WITH DOT ABOVEfBELOWcnNOON WITH TWO DOTSeSMALL TAHfV",
  "cLAM WITH BARcREH WITH TWO DOTS VERTICALLY ABOVEenHAMZAcnSEEN WITH TWO DOTS VERTICALLY",
  "cHAH WITH SMALL ARABIC LETTER TAH BELOWiAND TWO DOTScuSEENcuREH",
  "cHAH WITH SMALL ARABIC LETTER TAH ABOVEcnALEF WITH EXTENDED ARABIC-INDIC DIGIT TWOhnTHREE",
  "cnFARSI YEH WITH EXTENDED ARABIC-INDIC DIGIT TWOinTHREEiFOUR BELOW",
  "cWAW WITH EXTENDED ARABIC-INDIC DIGIT TWO ABOVEhnTHREE",
  "cnYEH BARREE WITH EXTENDED ARABIC-INDIC DIGIT TWOinTHREE",
  "cHAH WITH EXTENDED ARABIC-INDIC DIGIT FOUR BELOW",
  "cSEEN WITH EXTENDED ARABIC-INDIC DIGIT FOUR ABOVEeINVERTED VcKAF WITH TWO DOTS ABOVE",
  "aTHAANA LETTER HAAcSHAVIYANIcNOONUcRAAcBAAcLHAVIYANIcKAAFUcALIFUcVAAVUcMEEMUcFAAFUcDHAALU",
  "cTHAAcLAAMUcGAAFUcGNAVIYANIcSEENUcDAVIYANIcZAVIYANIcTAVIYANIcYAAcPAVIYANIcJAVIYANIcCHAVIYANI",
  "cTTAAcHHAAcKHAAcTHAALUcZAAcSHEENUcSAADHUcDAADHUcTOcZOcAINUcGHAINUcQAAFUcWAAVUbABAFILI",
  "bAABAAFILIbIBIFILIbEEBEEFILIbUBUFILIbOOBOOFILIbEBEFILIbEYBEYFILIbOBOFILIbOABOAFILIbSUKUN",
  "bLETTER NAA=7C0aNKO DIGIT ZEROcONEcTWOcTHREEcFOURcFIVEcSIXcSEVENcEIGHTcNINEbLETTER AcEEcIcEcU",
  "cOOcOcDAGBASINNAcNcBAcPAcTAcJAcCHAcDAcRAcRRAcSAcGBAcFAcKAcLAcNA WOLOSOcMAcNYAcNAcHAcWAcYA",
  "cNYA WOLOSOcJONA JAdCHAdRAbCOMBINING SHORT HIGH TONEdnLOWdnRISINGcnLONG DESCENDINGdnHIGHdnLOW",
  "dnRISINGcNASALIZATION MARKcDOUBLE DOT ABOVEbHIGH TONE APOSTROPHEboLOWbSYMBOL OO DENNEN",
  "cGBAKURUNENbCOMMAbEXCLAMATION MARKbLAJANYALAN=7FDbDANTAYALANbDOROME SIGNbnTAMAN",
  "aSAMARITAN LETTER ALAFcBITcGAMANcDALATcIYcBAAcZENcITcTITcYUTcKAAFcLABATcMIMcNUNcSINGAATcINcFI",
  "cTSAADIYcQUFcRISHcSHANcTAAFbMARK INcIN-ALAFcOCCLUSIONcDAGESHbMODIFIER LETTER EPENTHETIC YUT",
  "boMARKbVOWEL SIGN LONG EdndOVERLONG AAdnLONGdndOVERLONG AdnLONGdnbnMODIFIER LETTER SHORT",
  "boVOWEL SIGNdLONG UdnbMODIFIER LETTER IbnVOWEL SIGN LONGdndOdSUKUNbMARK NEQUDAA=830",
  "bnPUNCTUATIONcAFSAAQcANGEDcBAUcATMAAUcSHIYYAALAAbABBREVIATION MARKbPUNCTUATION MELODIC QITSA",
  "cZIQAAcQITSAcZAEFcTURUcARKAANUcSOF MASHFAATcANNAAU=840aMANDAIC LETTER HALQAcABcAGcADcAH",
  "cUSHENNAcAZcITcATTcAKSAcAKcALcAMcANcAScINcAPcASZcAQcARcASHcATcDUSHENNAcKADcAIN",
  "bAFFRICATION MARKbnVOCALIZATIONbnGEMINATION=85EbPUNCTUATION=860aSYRIAC LETTER MALAYALAM NGA",
  "dJAdNYAdTTAdNNAdNNNAdBHAdRAdLLAdLLLAdSSA=870aARABIC LETTER ALEF WITH ATTACHED FATHA",
  "fnTOP RIGHTeRIGHT MIDDLE STROKEeoLEFTeATTACHED KASRAfnBOTTOM RIGHTfROUND DOT ABOVE",
  "fRIGHT ROUND DOTfoLEFTfROUND DOT BELOWeDOT ABOVEeoATTACHED TOP RIGHT FATHA AND",
  "epRIGHT MIDDLE STROKEepATTACHED BOTTOM RIGHT KASRAfTOP RIGHT FATHA AND LEFT RING",
  "epRIGHT MIDDLE STROKEepATTACHED BOTTOM RIGHT KASRAfRIGHT HAMZAfnLEFTbnTATWEEL WITH OVERSTRUCK",
  "eWAWdTWO DOTS BELOWbLETTER THIN YEHbBASELINE ROUND DOTboRAISED",
  "bLETTER NOON WITH INVERTED SMALL VcHAH WITH INVERTED SMALL V BELOWcnTAH WITH DOTenTHREE DOTS",
  "cnKEHEH WITH TWO DOTS VERTICALLYbVERTICAL TAIL=890bPOUND MARK ABOVEboPIASTRE=898",
  "bSMALL HIGH WORD AL-JUZcLOW WORD ISHMAAMeIMAALAeTASHEELbMADDA WAAJIB",
  "bSUPERSCRIPT ALEF MOKHASSASbDOUBLED MADDAbnHALF MADDA OVERbLETTER BEH WITH SMALL V BELOW",
  "eHAMZA ABOVEcnJEEM WITH TWO DOTScqTAHcoFEH WITH DOT BELOW AND THREEcQAF WITH DOT BELOW",
  "cLAM WITH DOUBLE BARcMEEM WITH THREE DOTS ABOVEcnYEH WITH TWO DOTS BELOW AND HAMZAinDOT",
  "cREH WITH LOOPcWAW WITH DOT WITHINcROHINGYA YEHcLOW ALEFcDAL WITH THREE DOTS BELOWcqSAD",
  "cGAF WITH INVERTED STROKEcSTRAIGHT WAWcZAIN WITH INVERTED V ABOVEcAIN WITH THREE DOTS BELOW",
  "cnKAF WITH DOTcQAF WITH DOT BELOW AND NO DOTS ABOVEcnBEH WITH SMALL MEEMcqPEH",
  "cnTEH WITH SMALL TEHcnREH WITH SMALL NOONcpYEH WITH TWO DOTS BELOW ANDcAFRICAN FEHdQAFdNOON",
  "cPEH WITH SMALL VcpTEHcpTTEHcpTCHEHcpKEHEHcGHAIN WITH THREE DOTS ABOVEcqAFRICAN QAFcqJEEM",
  "gBELOWcLAM WITH SMALL ARABIC LETTER TAH ABOVEcGRAFbSMALL FARSI YEHcoHIGH",
  "dYEH BARREE WITH TWO DOTS BELOWdWORD SAHdZAHbLARGE ROUND DOT ABOVEeBELOWbnSUKUNbnLARGE CIRCLE",
  "coROUND DOT INSIDEbSMALL LOW WAWcHIGH WORD AR-RUBdSADdAINdQAFdNOON WITH KASRAcpLOW",
  "cHIGH WORD ATH-THALATHAeAS-SAJDAeAN-NISFeSAKTAeQIFeWAQFAdFOOTNOTE MARKERdSIGN SAFHA",
  "bDISPUTED END OF AYAHbTURNED DAMMA BELOWbCURLY FATHAcDAMMAcKASRAcFATHATANcDAMMATANcKASRATAN",
  "bTONE ONE DOT ABOVEcnTWO DOTScnLOOPcONE DOT BELOWcnTWO DOTScnLOOPbOPEN FATHATANcDAMMATAN",
  "cKASRATANbSMALL HIGH WAWbFATHA WITH RINGdDOT ABOVEbKASRA WITH DOT BELOWbLEFT ARROWHEAD ABOVE",
  "boRIGHTbLEFT ARROWHEAD BELOWboRIGHTbDOUBLE RIGHT ARROWHEAD ABOVEfWITH DOTbrboDAMMA",
  "bMARK SIDEWAYS NOON GHUNNA"
]

/-- The names of the characters from 900 to FDA. -/
def indic : List String := [
  "=900aDEVANAGARI SIGN INVERTED CANDRABINDUcncANUSVARAcVISARGAbLETTER SHORT AcncAAcIcIIcUcUU",
  "cVOCALIC RdLcCANDRA EcnSHORTcncAIcCANDRA OcnSHORTcncAUcKAcKHAcGAcGHAcNGAcCAcCHAcJAcJHAcNYA",
  "cTTAcTTHAcDDAcDDHAcNNAcTAcTHAcDAcDHAcNAcNNNAcPAcPHAcBAcBHAcMAcYAcRAcRRAcLAcLLAcLLLAcVAcSHA",
  "cSSAcSAcHAbVOWEL SIGN OEdOOEbSIGN NUKTAcAVAGRAHAbVOWEL SIGN AAdIdIIdUdUUdVOCALIC ReRR",
  "dCANDRA EdnSHORTdndAIdCANDRA OdnSHORTdndAUbSIGN VIRAMAbVOWEL SIGN PRISHTHAMATRA EdAWbOM",
  "bSTRESS SIGN UDATTAdANUDATTAbGRAVE ACCENTbnACUTEbVOWEL SIGN CANDRA LONG EdUEdUUEbLETTER QA",
  "cKHHAcGHHAcZAcDDDHAcRHAcFAcYYAcVOCALIC RRdLLbVOWEL SIGN VOCALIC LeLLbDANDAbnDOUBLEbDIGIT ZERO",
  "cONEcTWOcTHREEcFOURcFIVEcSIXcSEVENcEIGHTcNINEbABBREVIATION SIGNbSIGN HIGH SPACING DOT",
  "bLETTER CANDRA AcOEcOOEcAWcUEcUUEcMARWARI DDAcZHAcHEAVY YAcGGAcJJAcGLOTTAL STOPcDDDAcBBA",
  "aBENGALI ANJIbSIGN CANDRABINDUcANUSVARAcVISARGA=985bLETTER AcAAcIcIIcUcUUcVOCALIC RdL=98FcE",
  "cAI=993cOcAUcKAcKHAcGAcGHAcNGAcCAcCHAcJAcJHAcNYAcTTAcTTHAcDDAcDDHAcNNAcTAcTHAcDAcDHAcNA=9AA",
  "cPAcPHAcBAcBHAcMAcYAcRA=9B2cLA=9B6cSHAcSSAcSAcHA=9BCbSIGN NUKTAcAVAGRAHAbVOWEL SIGN AAdIdIIdU",
  "dUUdVOCALIC ReRR=9C7dEdAI=9CBdOdAUbSIGN VIRAMAbLETTER KHANDA TA=9D7bAU LENGTH MARK=9DC",
  "bLETTER RRAcRHA=9DFcYYAcVOCALIC RRdLLbVOWEL SIGN VOCALIC LeLL=9E6bDIGIT ZEROcONEcTWOcTHREE",
  "cFOURcFIVEcSIXcSEVENcEIGHTcNINEbLETTER RA WITH MIDDLE DIAGONALenLOWERbRUPEE MARKcSIGN",
  "bCURRENCY NUMERATOR ONEdTWOdTHREEdFOURdONE LESS THAN THE DENOMINATORcDENOMINATOR SIXTEEN",
  "bISSHARbGANDA MARKbLETTER VEDIC ANUSVARAbABBREVIATION SIGNbSANDHI MARK=A01",
  "aGURMUKHI SIGN ADAK BINDIcncVISARGA=A05bLETTER AcAAcIcIIcUcUU=A0FcEEcAI=A13cOOcAUcKAcKHAcGA",
  "cGHAcNGAcCAcCHAcJAcJHAcNYAcTTAcTTHAcDDAcDDHAcNNAcTAcTHAcDAcDHAcNA=A2AcPAcPHAcBAcBHAcMAcYAcRA",
  "=A32cLAcLLA=A35cVAcSHA=A38cSAcHA=A3CbSIGN NUKTA=A3EbVOWEL SIGN AAdIdIIdUdUU=A47dEEdAI=A4BdOO",
  "dAUbSIGN VIRAMA=A51cUDAAT=A59bLETTER KHHAcGHHAcZAcRRA=A5EcFA=A66bDIGIT ZEROcONEcTWOcTHREE",
  "cFOURcFIVEcSIXcSEVENcEIGHTcNINEbTIPPIbADDAKbIRIbURAbEK ONKARbSIGN YAKASHbABBREVIATION SIGN",
  "=A81aGUJARATI SIGN CANDRABINDUcANUSVARAcVISARGA=A85bLETTER AcAAcIcIIcUcUUcVOCALIC RdL",
  "bVOWEL CANDRA E=A8FbnLETTERcAIbVOWEL CANDRA O=A93bnLETTERcAUcKAcKHAcGAcGHAcNGAcCAcCHAcJAcJHA",
  "cNYAcTTAcTTHAcDDAcDDHAcNNAcTAcTHAcDAcDHAcNA=AAAcPAcPHAcBAcBHAcMAcYAcRA=AB2cLAcLLA=AB5cVAcSHA",
  "cSSAcSAcHA=ABCbSIGN NUKTAcAVAGRAHAbVOWEL SIGN AAdIdIIdUdUUdVOCALIC ReRRdCANDRA E=AC7dndAI",
  "dCANDRA O=ACBdndAUbSIGN VIRAMA=AD0bOM=AE0bLETTER VOCALIC RRdLLbVOWEL SIGN VOCALIC LeLL=AE6",
  "bDIGIT ZEROcONEcTWOcTHREEcFOURcFIVEcSIXcSEVENcEIGHTcNINEbABBREVIATION SIGNbnRUPEE=AF9",
  "bLETTER ZHAbSIGN SUKUNcSHADDAcMADDAHcTHREE-DOT NUKTA ABOVEcoCIRCLEcoTWO-CIRCLE=B01",
  "aORIYA SIGN CANDRABINDUcANUSVARAcVISARGA=B05bLETTER AcAAcIcIIcUcUUcVOCALIC RdL=B0FcEcAI=B13cO",
  "cAUcKAcKHAcGAcGHAcNGAcCAcCHAcJAcJHAcNYAcTTAcTTHAcDDAcDDHAcNNAcTAcTHAcDAcDHAcNA=B2AcPAcPHAcBA",
  "cBHAcMAcYAcRA=B32cLAcLLA=B35cVAcSHAcSSAcSAcHA=B3CbSIGN NUKTAcAVAGRAHAbVOWEL SIGN AAdIdIIdUdUU",
  "dVOCALIC ReRR=B47dEdAI=B4BdOdAUbSIGN VIRAMA=B55cOVERLINEbAI LENGTH MARKboAU=B5CbLETTER RRA",
  "cRHA=B5FcYYAcVOCALIC RRdLLbVOWEL SIGN VOCALIC LeLL=B66bDIGIT ZEROcONEcTWOcTHREEcFOURcFIVEcSIX",
  "cSEVENcEIGHTcNINEbISSHARbLETTER WAbFRACTION ONE QUARTERdHALFcTHREE QUARTERScONE SIXTEENTH",
  "dEIGHTHcTHREE SIXTEENTHS=B82aTAMIL SIGN ANUSVARAcVISARGA=B85bLETTER AcAAcIcIIcUcUU=B8EcEcEE",
  "cAI=B92cOcOOcAUcKA=B99cNGAcCA=B9CcJA=B9EcNYAcTTA=BA3cNNAcTA=BA8cNAcNNNAcPA=BAEcMAcYAcRAcRRA",
  "cLAcLLAcLLLAcVAcSHAcSSAcSAcHA=BBEbVOWEL SIGN AAdIdIIdUdUU=BC6dEdEEdAI=BCAdOdOOdAUbSIGN VIRAMA",
  "=BD0bOM=BD7bAU LENGTH MARK=BE6bDIGIT ZEROcONEcTWOcTHREEcFOURcFIVEcSIXcSEVENcEIGHTcNINE",
  "bNUMBER TENcONE HUNDREDdTHOUSANDbDAY SIGNbnMONTHbnYEARbnDEBITbnCREDITbnAS ABOVEbnRUPEE",
  "bnNUMBER=C00aTELUGU SIGN COMBINING CANDRABINDU ABOVEcCANDRABINDUcANUSVARAcVISARGA",
  "cCOMBINING ANUSVARA ABOVEbLETTER AcAAcIcIIcUcUUcVOCALIC RdL=C0EcEcEEcAI=C12cOcOOcAUcKAcKHAcGA",
  "cGHAcNGAcCAcCHAcJAcJHAcNYAcTTAcTTHAcDDAcDDHAcNNAcTAcTHAcDAcDHAcNA=C2AcPAcPHAcBAcBHAcMAcYAcRA",
  "cRRAcLAcLLAcLLLAcVAcSHAcSSAcSAcHA=C3CbSIGN NUKTAcAVAGRAHAbVOWEL SIGN AAdIdIIdUdUUdVOCALIC R",
  "eRR=C46dEdEEdAI=C4AdOdOOdAUbSIGN VIRAMA=C55bLENGTH MARKboAI=C58bLETTER TSAcDZAcRRRA=C5D",
  "cNAKAARA POLLU=C60cVOCALIC RRdLLbVOWEL SIGN VOCALIC LeLL=C66bDIGIT ZEROcONEcTWOcTHREEcFOUR",
  "cFIVEcSIXcSEVENcEIGHTcNINE=C77bSIGN SIDDHAMbFRACTION DIGIT ZERO FOR ODD POWERS OF FOURdrONE",
  "drTWOdrTHREEdpONE FOR EVENdrTWOdrTHREEbSIGN TUUMUaKANNADA SIGN SPACING CANDRABINDUcncANUSVARA",
  "cVISARGAcSIDDHAMbLETTER AcAAcIcIIcUcUUcVOCALIC RdL=C8EcEcEEcAI=C92cOcOOcAUcKAcKHAcGAcGHAcNGA",
  "cCAcCHAcJAcJHAcNYAcTTAcTTHAcDDAcDDHAcNNAcTAcTHAcDAcDHAcNA=CAAcPAcPHAcBAcBHAcMAcYAcRAcRRAcLA",
  "cLLA=CB5cVAcSHAcSSAcSAcHA=CBCbSIGN NUKTAcAVAGRAHAbVOWEL SIGN AAdIdIIdUdUUdVOCALIC ReRR=CC6dE",
  "dEEdAI=CCAdOdOOdAUbSIGN VIRAMA=CD5bLENGTH MARKboAI=CDDbLETTER NAKAARA POLLUcFA=CE0cVOCALIC RR",
  "dLLbVOWEL SIGN VOCALIC LeLL=CE6bDIGIT ZEROcONEcTWOcTHREEcFOURcFIVEcSIXcSEVENcEIGHTcNINE=CF1",
  "bSIGN JIHVAMULIYAcUPADHMANIYA=D00aMALAYALAM SIGN COMBINING ANUSVARA ABOVEcCANDRABINDU",
  "cANUSVARAcVISARGAbLETTER VEDIC ANUSVARAcAcAAcIcIIcUcUUcVOCALIC RdL=D0EcEcEEcAI=D12cOcOOcAUcKA",
  "cKHAcGAcGHAcNGAcCAcCHAcJAcJHAcNYAcTTAcTTHAcDDAcDDHAcNNAcTAcTHAcDAcDHAcNAcNNNAcPAcPHAcBAcBHA",
  "cMAcYAcRAcRRAcLAcLLAcLLLAcVAcSHAcSSAcSAcHAcTTTAbSIGN VERTICAL BAR VIRAMAcnCIRCULARcAVAGRAHA",
  "bVOWEL SIGN AAdIdIIdUdUUdVOCALIC ReRR=D46dEdEEdAI=D4AdOdOOdAUbSIGN VIRAMAbLETTER DOT REPH",
  "bSIGN PARA=D54bLETTER CHILLU MdYdLLLbAU LENGTH MARKbFRACTION ONE ONE-HUNDRED-AND-SIXTIETH",
  "dFORTIETHcTHREE EIGHTIETHScONE TWENTIETHdTENTHcTHREE TWENTIETHScONE FIFTHbLETTER ARCHAIC II",
  "cVOCALIC RRdLLbVOWEL SIGN VOCALIC LeLL=D66bDIGIT ZEROcONEcTWOcTHREEcFOURcFIVEcSIXcSEVENcEIGHT",
  "cNINEbNUMBER TENcONE HUNDREDdTHOUSANDbFRACTION ONE QUARTERdHALFcTHREE QUARTERScONE SIXTEENTH",
  "dEIGHTHcTHREE SIXTEENTHSbDATE MARKbLETTER CHILLU NNdNdRRdLdLLdK=D81aSINHALA SIGN CANDRABINDU",
  "cANUSVARAYAcVISARGAYA=D85bLETTER AYANNAcAAYANNAcAEYANNAcAEEYANNAcIYANNAcIIYANNAcUYANNA",
  "cUUYANNAcIRUYANNAcIRUUYANNAcILUYANNAcILUUYANNAcEYANNAcEEYANNAcAIYANNAcOYANNAcOOYANNAcAUYANNA",
  "=D9AcALPAPRAANA KAYANNAcnMAHAAPRAANAcALPAPRAANA GAYANNAcnMAHAAPRAANAcKANTAJA NAASIKYAYA",
  "cSANYAKA GAYANNAcALPAPRAANA CAYANNAcnMAHAAPRAANAcALPAPRAANA JAYANNAcnMAHAAPRAANA",
  "cTAALUJA NAASIKYAYAdSANYOOGA NAAKSIKYAYAcSANYAKA JAYANNAcALPAPRAANA TTAYANNAcnMAHAAPRAANA",
  "cALPAPRAANA DDAYANNAcnMAHAAPRAANAcMUURDHAJA NAYANNAcSANYAKA DDAYANNAcALPAPRAANA TAYANNA",
  "cnMAHAAPRAANAcALPAPRAANA DAYANNAcnMAHAAPRAANAcDANTAJA NAYANNA=DB3cSANYAKA DAYANNA",
  "cALPAPRAANA PAYANNAcnMAHAAPRAANAcALPAPRAANA BAYANNAcnMAHAAPRAANAcMAYANNAcAMBA BAYANNAcYAYANNA",
  "cRAYANNA=DBDcDANTAJA LAYANNA=DC0cVAYANNAcTAALUJA SAYANNAcnMUURDHAJAcnDANTAJAcHAYANNA",
  "cMUURDHAJA LAYANNAcFAYANNA=DCAbSIGN AL-LAKUNA=DCFbVOWEL SIGN AELA-PILLAdKETTI AEDA-PILLA",
  "dnDIGAdKETTI IS-PILLAdnDIGAdKETTI PAA-PILLA=DD6dnDIGA=DD8dGAETTA-PILLAdKOMBUVAdnDIGA",
  "dKOMBU DEKAdKOMBUVA HAA AELA-PILLAfnDIGAfGAYANUKITTAdn=DE6bLITH DIGIT ZEROdONEdTWOdTHREEdFOUR",
  "dFIVEdSIXdSEVENdEIGHTdNINE=DF2bVOWEL SIGN DIGA GAETTA-PILLAeGAYANUKITTA",
  "bPUNCTUATION KUNDDALIYA=E01aTHAI CHARACTER KO KAIcKHO KHAIdKHUATdKHWAIdKHONdRAKHANGcNGO NGU",
  "cCHO CHANdCHINGdCHANGcSO SOcCHO CHOEcYO YINGcDO CHADAcTO PATAKcTHO THANdNANGMONTHOdPHUTHAO",
  "cNO NENcDO DEKcTO TAOcTHO THUNGdTHAHANdTHONGcNO NUcBO BAIMAIcPO PLAcPHO PHUNGcFO FAcPHO PHAN",
  "cFO FANcPHO SAMPHAOcMO MAcYO YAKcRO RUAcRUcLO LINGcLUcWO WAENcSO SALAdRUSIdSUAcHO HIP",
  "cLO CHULAcO ANGcHO NOKHUKcPAIYANNOIcSARA AcMAI HAN-AKATcSARA AAdAMdIdIIdUEdUEEdUdUUcPHINTHU",
  "=E3FbCURRENCY SYMBOL BAHTbCHARACTER SARA EdAEdOdAI MAIMUANeMAIMALAIcLAKKHANGYAOcMAIYAMOK",
  "cMAITAIKHUcMAI EKdTHOdTRIdCHATTAWAcTHANTHAKHATcNIKHAHITcYAMAKKANcFONGMANbDIGIT ZEROcONEcTWO",
  "cTHREEcFOURcFIVEcSIXcSEVENcEIGHTcNINEbCHARACTER ANGKHANKHUcKHOMUT=E81aLAO LETTER KOcKHO SUNG",
  "=E84dTAM=E86cPALI GHAcNGOcCOcPALI CHAcSO TAM=E8CcPALI JHAcNYOcPALI NYAdTTAdTTHAdDDAdDDHAdNNA",
  "cDOcTOcTHO SUNGdTAMcPALI DHAcNOcBOcPOcPHO SUNGcFO TAMcnPHOcFO SUNGcPALI BHAcMOcYOcLO LING=EA5",
  "dLOOT=EA7cWOcSANSKRIT SHAdSSAcSO SUNGcnHOcPALI LLAcOcHO TAMbELLIPSISbVOWEL SIGN AdMAI KANdAA",
  "dAMdIdIIdYdYYdUdUUbSIGN PALI VIRAMAbVOWEL SIGN MAI KONbSEMIVOWEL SIGN LOdNYO=EC0bVOWEL SIGN E",
  "dEIdOdAYdAI=EC6bKO LA=EC8bTONE MAI EKdTHOdTIdCATAWAbCANCELLATION MARKbNIGGAHITA=ED0",
  "bDIGIT ZEROcONEcTWOcTHREEcFOURcFIVEcSIXcSEVENcEIGHTcNINE=EDCbHO NOcMObLETTER KHMU GOdNYO=F00",
  "aTIBETAN SYLLABLE OMbMARK GTER YIG MGO TRUNCATED Af-UM RNAM BCAD MAgnGTER TSHEG",
  "cnINITIAL YIG MGO MDUNcnCLOSING YIG MGO SGABcnCARET YIG MGO PHUR SHADcoYIG MGO TSHEG",
  "cSBRUL SHADcBSKUR YIG MGOcoBKA- SHOGcINTERSYLLABIC TSHEGcDELIMITER TSHEG BSTARcSHADcnNYIS",
  "cnTSHEGcoNYIScnRIN CHEN SPUNGScnRGYA GRAMcCARET -DZUD RTAGS ME LONG CANcGTER TSHEG",
  "bLOGOTYPE SIGN CHAD RTAGSdnLHAGbnASTROLOGICAL SIGN SGRA GCAN -CHARd-KHYUD PAdSDONG TSHUGS",
  "bSIGN RDEL DKAR GCIGeGNYISeGSUMdNAG GCIGeGNYISdDKAR RDEL NAGbDIGIT ZEROcONEcTWOcTHREEcFOUR",
  "cFIVEcSIXcSEVENcEIGHTcNINEcHALF ONEdTWOdTHREEdFOURdFIVEdSIXdSEVENdEIGHTdNINEdZERO",
  "bMARK BSDUS RTAGScNGAS BZUNG NYI ZLAcCARET -DZUD RTAGS BZHI MIG CANcNGAS BZUNG SGOR RTAGS",
  "cCHE MGOcTSA -PHRUcGUG RTAGS GYONeGYAScANG KHANG GYONeGYASbSIGN YAR TSHEScnMARbLETTER KAcKHA",
  "cGAcGHAcNGAcCAcCHAcJA=F49cNYAcTTAcTTHAcDDAcDDHAcNNAcTAcTHAcDAcDHAcNAcPAcPHAcBAcBHAcMAcTSA",
  "cTSHAcDZAcDZHAcWAcZHAcZAc-AcYAcRAcLAcSHAcSSAcSAcHAcAcKSSAcFIXED-FORM RAcKKAcRRA=F71",
  "bVOWEL SIGN AAdIdIIdUdUUdVOCALIC ReRReLeLLdEdEEdOdOObSIGN RJES SU NGA ROcRNAM BCAD",
  "bVOWEL SIGN REVERSED IeIIbSIGN NYI ZLA NAA DAcSNA LDANbMARK HALANTAcPALUTAbSIGN LCI RTAGS",
  "cnYANGcLCE TSA CANcnMCHUcGRU CAN RGYINGSdnMEDcINVERTED MCHU CANbnSUBJOINED SIGN LCE TSAdnMCHU",
  "doINVERTEDcLETTER KAdKHAdGAdGHAdNGAdCAdCHAdJA=F99dNYAdTTAdTTHAdDDAdDDHAdNNAdTAdTHAdDAdDHAdNA",
  "dPAdPHAdBAdBHAdMAdTSAdTSHAdDZAdDZHAdWAdZHAdZAd-AdYAdRAdLAdSHAdSSAdSAdHAdAdKSSAdFIXED-FORM WA",
  "eYAeRA=FBEbKU RU KHAeBZHI MIG CANbCANTILLATION SIGN HEAVY BEATdnLIGHTdCANG TE-UdSBUB -CHAL",
  "bSYMBOL DRIL BUcRDO RJEcPADMA GDANcRDO RJE RGYA GRAMcPHUR PAcNOR BUeNYIS -KHYILenGSUMenBZHI",
  "=FCEbSIGN RDEL NAG RDEL DKAReGSUMbMARK BSKA- SHOG GI MGO RGYANcpMNYAM YIGcNYIS TSHEG",
  "cINITIAL BRDA RNYING YIG MGO MDUN MAcnCLOSING BRDA RNYING YIG MGO SGAB",
  "aRIGHT-FACING SVASTI SIGNaoLEFT-FACINGaRIGHT-FACING SVASTI SIGN WITH DOTSaqLEFT-FACING",
  "aTIBETAN MARK LEADING MCHAN RTAGScoTRAILING"
]

/-- The names of the characters from 1000 to 167F. -/
def syllabic : List String := [
  "=1000aMYANMAR LETTER KAcKHAcGAcGHAcNGAcCAcCHAcJAcJHAcNYAcNNYAcTTAcTTHAcDDAcDDHAcNNAcTAcTHAcDA",
  "cDHAcNAcPAcPHAcBAcBHAcMAcYAcRAcLAcWAcSAcHAcLLAcAcnSHANcIcIIcUcUUcEcnMONcOcAU",
  "bVOWEL SIGN TALL AAdndIdIIdUdUUdEdAIdMON IIeOdE ABOVEbSIGN ANUSVARAcDOT BELOWcVISARGAcVIRAMA",
  "cASATbCONSONANT SIGN MEDIAL YAeRAeWAeHAbLETTER GREAT SAbDIGIT ZEROcONEcTWOcTHREEcFOURcFIVE",
  "cSIXcSEVENcEIGHTcNINEbSIGN LITTLE SECTIONcnbSYMBOL LOCATIVEcCOMPLETEDcAFOREMENTIONEDcGENITIVE",
  "bLETTER SHAcSSAcVOCALIC RdRRdLdLLbVOWEL SIGN VOCALIC ReRReLeLLbLETTER MON NGAdJHAdBBAdBBE",
  "bCONSONANT SIGN MON MEDIAL NAfMAfLAbLETTER SGAW KAREN SHAbVOWEL SIGN SGAW KAREN EU",
  "bTONE MARK SGAW KAREN HATHIfKE PHObLETTER WESTERN PWO KAREN THAfPWA",
  "bVOWEL SIGN WESTERN PWO KAREN EUgUEbSIGN WESTERN PWO KAREN TONE-1+4",
  "bLETTER EASTERN PWO KAREN NNAfYWAfGHWAbVOWEL SIGN GEBA KAREN IdKAYAH OEeUeEEbLETTER SHAN KA",
  "dKHAdGAdCAdZAdNYAdDAdNAdPHAdFAdBAdTHAdHAbCONSONANT SIGN SHAN MEDIAL WAbVOWEL SIGN SHAN AAeE",
  "fABOVEeFINAL YbSIGN SHAN TONE-2+1dTONE-5+1dCOUNCIL TONE-2+1eEMPHATIC TONE",
  "bLETTER RUMAI PALAUNG FAbSIGN RUMAI PALAUNG TONE-5bSHAN DIGIT ZEROdONEdTWOdTHREEdFOURdFIVE",
  "dSIXdSEVENdEIGHTdNINEbSIGN KHAMTI TONE-1dTONE-3bVOWEL SIGN AITON AeAIbSYMBOL SHAN ONE",
  "dEXCLAMATIONaGEORGIAN CAPITAL LETTER ANdBANdGANdDONdENdVINdZENdTANdINdKANdLASdMANdNARdONdPAR",
  "dZHARdRAEdSANdTARdUNdPHARdKHARdGHANdQARdSHINdCHINdCANdJILdCILdCHARdXANdJHANdHAEdHEdHIEdWEdHAR",
  "dHOE=10C7dYN=10CDdAEN=10D0bLETTER ANcBANcGANcDONcENcVINcZENcTANcINcKANcLAScMANcNARcONcPAR",
  "cZHARcRAEcSANcTARcUNcPHARcKHARcGHANcQARcSHINcCHINcCANcJILcCILcCHARcXANcJHANcHAEcHEcHIEcWEcHAR",
  "cHOEcFIcYNcELIFIcTURNED GANcAINbPARAGRAPH SEPARATORaMODIFIER LETTER GEORGIAN NAR",
  "aGEORGIAN LETTER AENcHARD SIGNcnLABIALaHANGUL CHOSEONG KIYEOKcSSANGKIYEOKcNIEUNcTIKEUT",
  "cSSANGTIKEUTcRIEULcMIEUMcPIEUPcSSANGPIEUPcSIOScSSANGSIOScIEUNGcCIEUCcSSANGCIEUCcCHIEUCH",
  "cKHIEUKHcTHIEUTHcPHIEUPHcHIEUHcNIEUN-KIYEOKcSSANGNIEUNcNIEUN-TIKEUTcNIEUN-PIEUPcTIKEUT-KIYEOK",
  "cRIEUL-NIEUNcSSANGRIEULcRIEUL-HIEUHcKAPYEOUNRIEULcMIEUM-PIEUPcKAPYEOUNMIEUMcPIEUP-KIYEOK",
  "cPIEUP-NIEUNcPIEUP-TIKEUTcPIEUP-SIOScPIEUP-SIOS-KIYEOKcPIEUP-SIOS-TIKEUTcPIEUP-SIOS-PIEUP",
  "cPIEUP-SSANGSIOScPIEUP-SIOS-CIEUCcPIEUP-CIEUCcPIEUP-CHIEUCHcPIEUP-THIEUTHcPIEUP-PHIEUPH",
  "cKAPYEOUNPIEUPcKAPYEOUNSSANGPIEUPcSIOS-KIYEOKcSIOS-NIEUNcSIOS-TIKEUTcSIOS-RIEULcSIOS-MIEUM",
  "cSIOS-PIEUPcSIOS-PIEUP-KIYEOKcSIOS-SSANGSIOScSIOS-IEUNGcSIOS-CIEUCcSIOS-CHIEUCHcSIOS-KHIEUKH",
  "cSIOS-THIEUTHcSIOS-PHIEUPHcSIOS-HIEUHcCHITUEUMSIOScCHITUEUMSSANGSIOScCEONGCHIEUMSIOS",
  "cCEONGCHIEUMSSANGSIOScPANSIOScIEUNG-KIYEOKcIEUNG-TIKEUTcIEUNG-MIEUMcIEUNG-PIEUPcIEUNG-SIOS",
  "cIEUNG-PANSIOScSSANGIEUNGcIEUNG-CIEUCcIEUNG-CHIEUCHcIEUNG-THIEUTHcIEUNG-PHIEUPHcYESIEUNG",
  "cCIEUC-IEUNGcCHITUEUMCIEUCcCHITUEUMSSANGCIEUCcCEONGCHIEUMCIEUCcCEONGCHIEUMSSANGCIEUC",
  "cCHIEUCH-KHIEUKHcCHIEUCH-HIEUHcCHITUEUMCHIEUCHcCEONGCHIEUMCHIEUCHcPHIEUPH-PIEUP",
  "cKAPYEOUNPHIEUPHcSSANGHIEUHcYEORINHIEUHcKIYEOK-TIKEUTcNIEUN-SIOScNIEUN-CIEUCcNIEUN-HIEUH",
  "cTIKEUT-RIEULcFILLERbnJUNGSEONGcAcAEcYAcYAEcEOcEcYEOcYEcOcWAcWAEcOEcYOcUcWEOcWEcWIcYUcEUcYIcI",
  "cA-OcA-UcYA-OcYA-YOcEO-OcEO-UcEO-EUcYEO-OcYEO-UcO-EOcO-EcO-YEcO-OcO-UcYO-YAcYO-YAEcYO-YEO",
  "cYO-OcYO-IcU-AcU-AEcU-EO-EUcU-YEcU-UcYU-AcYU-EOcYU-EcYU-YEOcYU-YEcYU-UcYU-IcEU-UcEU-EUcYI-U",
  "cI-AcI-YAcI-OcI-UcI-EUcI-ARAEAcARAEAcARAEA-EOcARAEA-UcARAEA-IcSSANGARAEAcA-EUcYA-UcYEO-YA",
  "cO-YAcO-YAEbJONGSEONG KIYEOKcSSANGKIYEOKcKIYEOK-SIOScNIEUNcNIEUN-CIEUCcNIEUN-HIEUHcTIKEUT",
  "cRIEULcRIEUL-KIYEOKcRIEUL-MIEUMcRIEUL-PIEUPcRIEUL-SIOScRIEUL-THIEUTHcRIEUL-PHIEUPH",
  "cRIEUL-HIEUHcMIEUMcPIEUPcPIEUP-SIOScSIOScSSANGSIOScIEUNGcCIEUCcCHIEUCHcKHIEUKHcTHIEUTH",
  "cPHIEUPHcHIEUHcKIYEOK-RIEULcKIYEOK-SIOS-KIYEOKcNIEUN-KIYEOKcNIEUN-TIKEUTcNIEUN-SIOS",
  "cNIEUN-PANSIOScNIEUN-THIEUTHcTIKEUT-KIYEOKcTIKEUT-RIEULcRIEUL-KIYEOK-SIOScRIEUL-NIEUN",
  "cRIEUL-TIKEUTcRIEUL-TIKEUT-HIEUHcSSANGRIEULcRIEUL-MIEUM-KIYEOKcRIEUL-MIEUM-SIOS",
  "cRIEUL-PIEUP-SIOScRIEUL-PIEUP-HIEUHcRIEUL-KAPYEOUNPIEUPcRIEUL-SSANGSIOScRIEUL-PANSIOS",
  "cRIEUL-KHIEUKHcRIEUL-YEORINHIEUHcMIEUM-KIYEOKcMIEUM-RIEULcMIEUM-PIEUPcMIEUM-SIOS",
  "cMIEUM-SSANGSIOScMIEUM-PANSIOScMIEUM-CHIEUCHcMIEUM-HIEUHcKAPYEOUNMIEUMcPIEUP-RIEUL",
  "cPIEUP-PHIEUPHcPIEUP-HIEUHcKAPYEOUNPIEUPcSIOS-KIYEOKcSIOS-TIKEUTcSIOS-RIEULcSIOS-PIEUP",
  "cPANSIOScIEUNG-KIYEOKcIEUNG-SSANGKIYEOKcSSANGIEUNGcIEUNG-KHIEUKHcYESIEUNGcYESIEUNG-SIOS",
  "cYESIEUNG-PANSIOScPHIEUPH-PIEUPcKAPYEOUNPHIEUPHcHIEUH-NIEUNcHIEUH-RIEULcHIEUH-MIEUM",
  "cHIEUH-PIEUPcYEORINHIEUHcKIYEOK-NIEUNcKIYEOK-PIEUPcKIYEOK-CHIEUCHcKIYEOK-KHIEUKHcKIYEOK-HIEUH",
  "cSSANGNIEUNaETHIOPIC SYLLABLE HAcHUcHIcHAAcHEEcHEcHOcHOAcLAcLUcLIcLAAcLEEcLEcLOcLWAcHHAcHHU",
  "cHHIcHHAAcHHEEcHHEcHHOcHHWAcMAcMUcMIcMAAcMEEcMEcMOcMWAcSZAcSZUcSZIcSZAAcSZEEcSZEcSZOcSZWAcRA",
  "cRUcRIcRAAcREEcREcROcRWAcSAcSUcSIcSAAcSEEcSEcSOcSWAcSHAcSHUcSHIcSHAAcSHEEcSHEcSHOcSHWAcQAcQU",
  "cQIcQAAcQEEcQEcQOcQOAcQWA=124AcQWIcQWAAcQWEEcQWE=1250cQHAcQHUcQHIcQHAAcQHEEcQHEcQHO=1258cQHWA",
  "=125AcQHWIcQHWAAcQHWEEcQHWE=1260cBAcBUcBIcBAAcBEEcBEcBOcBWAcVAcVUcVIcVAAcVEEcVEcVOcVWAcTAcTU",
  "cTIcTAAcTEEcTEcTOcTWAcCAcCUcCIcCAAcCEEcCEcCOcCWAcXAcXUcXIcXAAcXEEcXEcXOcXOAcXWA=128AcXWIcXWAA",
  "cXWEEcXWE=1290cNAcNUcNIcNAAcNEEcNEcNOcNWAcNYAcNYUcNYIcNYAAcNYEEcNYEcNYOcNYWAcGLOTTAL AdUdIdAA",
  "dEEdEdOdWAcKAcKUcKIcKAAcKEEcKEcKOcKOAcKWA=12B2cKWIcKWAAcKWEEcKWE=12B8cKXAcKXUcKXIcKXAAcKXEE",
  "cKXEcKXO=12C0cKXWA=12C2cKXWIcKXWAAcKXWEEcKXWE=12C8cWAcWUcWIcWAAcWEEcWEcWOcWOAcPHARYNGEAL AdU",
  "dIdAAdEEdEdO=12D8cZAcZUcZIcZAAcZEEcZEcZOcZWAcZHAcZHUcZHIcZHAAcZHEEcZHEcZHOcZHWAcYAcYUcYIcYAA",
  "cYEEcYEcYOcYOAcDAcDUcDIcDAAcDEEcDEcDOcDWAcDDAcDDUcDDIcDDAAcDDEEcDDEcDDOcDDWAcJAcJUcJIcJAAcJEE",
  "cJEcJOcJWAcGAcGUcGIcGAAcGEEcGEcGOcGOAcGWA=1312cGWIcGWAAcGWEEcGWE=1318cGGAcGGUcGGIcGGAAcGGEE",
  "cGGEcGGOcGGWAAcTHAcTHUcTHIcTHAAcTHEEcTHEcTHOcTHWAcCHAcCHUcCHIcCHAAcCHEEcCHEcCHOcCHWAcPHAcPHU",
  "cPHIcPHAAcPHEEcPHEcPHOcPHWAcTSAcTSUcTSIcTSAAcTSEEcTSEcTSOcTSWAcTZAcTZUcTZIcTZAAcTZEEcTZEcTZO",
  "cTZOAcFAcFUcFIcFAAcFEEcFEcFOcFWAcPAcPUcPIcPAAcPEEcPEcPOcPWAcRYAcMYAcFYA=135D",
  "bCOMBINING GEMINATION AND VOWEL LENGTH MARKcpcnGEMINATIONbnSECTIONbWORDSPACEbFULL STOPbCOMMA",
  "bSEMICOLONbCOLONbnPREFACEbQUESTION MARKbPARAGRAPH SEPARATORbDIGIT ONEcTWOcTHREEcFOURcFIVEcSIX",
  "cSEVENcEIGHTcNINEbNUMBER TENcTWENTYcTHIRTYcFORTYcFIFTYcSIXTYcSEVENTYcEIGHTYcNINETYcHUNDRED",
  "cTEN THOUSAND=1380bSYLLABLE SEBATBEIT MWAcMWIcMWEEcMWEcSEBATBEIT BWAcBWIcBWEEcBWE",
  "cSEBATBEIT FWAcFWIcFWEEcFWEcSEBATBEIT PWAcPWIcPWEEcPWEbTONAL MARK YIZETdDERETdRIKRIKdnSHORT",
  "dDIFATdKENATdCHIRETdHIDETdDERET-HIDETdKURT=13A0aCHEROKEE LETTER AcEcIcOcUcVcGAcKAcGEcGIcGOcGU",
  "cGVcHAcHEcHIcHOcHUcHVcLAcLEcLIcLOcLUcLVcMAcMEcMIcMOcMUcNAcHNAcNAHcNEcNIcNOcNUcNVcQUAcQUEcQUI",
  "cQUOcQUUcQUVcSAcScSEcSIcSOcSUcSVcDAcTAcDEcTEcDIcTIcDOcDUcDVcDLAcTLAcTLEcTLIcTLOcTLUcTLVcTSA",
  "cTSEcTSIcTSOcTSUcTSVcWAcWEcWIcWOcWUcWVcYAcYEcYIcYOcYUcYVcMV=13F8bSMALL LETTER YEdYIdYOdYUdYV",
  "dMV=1400aCANADIAN SYLLABICS HYPHENcEcAAIcIcIIcOcOOcnY-CREEcCARRIER EEdIcAcAAcWEcnWEST-CREEcWI",
  "cnWEST-CREEcWIIcnWEST-CREEcWOcnWEST-CREEcWOOcnWEST-CREEcnNASKAPIcWAcnWEST-CREEcWAAcnWEST-CREE",
  "cnNASKAPIcAIcY-CREE WcGLOTTAL STOPcFINAL ACUTEdGRAVEdBOTTOM HALF RINGdoTOPdoRIGHTdn",
  "dDOUBLE ACUTEeSHORT VERTICAL STROKESdMIDDLE DOTdSHORT HORIZONTAL STROKEdPLUSdDOWN TACKcENcIN",
  "cONcANcPEcPAAIcPIcPIIcPOcPOOcnY-CREEcCARRIER HEEdHIcPAcPAAcPWEcnWEST-CREEcPWIcnWEST-CREEcPWII",
  "cnWEST-CREEcPWOcnWEST-CREEcPWOOcnWEST-CREEcPWAcnWEST-CREEcPWAAcnWEST-CREEcnY-CREEcP",
  "cnWEST-CREEcCARRIER HcTEcTAAIcTIcTIIcTOcTOOcnY-CREEcCARRIER DEEdDIcTAcTAAcTWEcnWEST-CREEcTWI",
  "cnWEST-CREEcTWIIcnWEST-CREEcTWOcnWEST-CREEcTWOOcnWEST-CREEcTWAcnWEST-CREEcTWAAcnWEST-CREE",
  "cnNASKAPIcTcTTEcTTIcTTOcTTAcKEcKAAIcKIcKIIcKOcKOOcnY-CREEcKAcKAAcKWEcnWEST-CREEcKWI",
  "cnWEST-CREEcKWIIcnWEST-CREEcKWOcnWEST-CREEcKWOOcnWEST-CREEcKWAcnWEST-CREEcKWAAcnWEST-CREE",
  "cnNASKAPIcKcKWcSOUTH-SLAVEY KEHdKIHdKOHdKAHcCEcCAAIcCIcCIIcCOcCOOcnY-CREEcCAcCAAcCWE",
  "cnWEST-CREEcCWIcnWEST-CREEcCWIIcnWEST-CREEcCWOcnWEST-CREEcCWOOcnWEST-CREEcCWAcnWEST-CREEcCWAA",
  "cnWEST-CREEcnNASKAPIcCcSAYISI THcMEcMAAIcMIcMIIcMOcMOOcnY-CREEcMAcMAAcMWEcnWEST-CREEcMWI",
  "cnWEST-CREEcMWIIcnWEST-CREEcMWOcnWEST-CREEcMWOOcnWEST-CREEcMWAcnWEST-CREEcMWAAcnWEST-CREE",
  "cnNASKAPIcMcnWEST-CREEcMHcATHAPASCAN McnSAYISIcNEcNAAIcNIcNIIcNOcNOOcnY-CREEcNAcNAAcNWE",
  "cnWEST-CREEcNWAcnWEST-CREEcNWAAcnWEST-CREEcnNASKAPIcNcCARRIER NGcNHcLEcLAAIcLIcLIIcLOcLOO",
  "cnY-CREEcLAcLAAcLWEcnWEST-CREEcLWIcnWEST-CREEcLWIIcnWEST-CREEcLWOcnWEST-CREEcLWOOcnWEST-CREE",
  "cLWAcnWEST-CREEcLWAAcnWEST-CREEcLcnWEST-CREEcnMEDIALcSEcSAAIcSIcSIIcSOcSOOcnY-CREEcSAcSAAcSWE",
  "cnWEST-CREEcSWIcnWEST-CREEcSWIIcnWEST-CREEcSWOcnWEST-CREEcSWOOcnWEST-CREEcSWAcnWEST-CREEcSWAA",
  "cnWEST-CREEcnNASKAPIcScnATHAPASCANcSWcBLACKFOOT ScMOOSE-CREE SKcNASKAPI SKWdS-WdSPWAdSTWA",
  "dSKWAdSCWAcSHEcSHIcSHIIcSHOcSHOOcSHAcSHAAcSHWEcnWEST-CREEcSHWIcnWEST-CREEcSHWIIcnWEST-CREE",
  "cSHWOcnWEST-CREEcSHWOOcnWEST-CREEcSHWAcnWEST-CREEcSHWAAcnWEST-CREEcSHcYEcYAAIcYIcYIIcYOcYOO",
  "cnY-CREEcYAcYAAcYWEcnWEST-CREEcYWIcnWEST-CREEcYWIIcnWEST-CREEcYWOcnWEST-CREEcYWOOcnWEST-CREE",
  "cYWAcnWEST-CREEcYWAAcnWEST-CREEcnNASKAPIcYcnBIBLE-CREEcnWEST-CREEcSAYISI YIcREcnR-CREE",
  "cWEST-CREE LEcRAAIcRIcRIIcROcROOcWEST-CREE LOcRAcRAAcWEST-CREE LAcRWAAcnWEST-CREEcR",
  "cnWEST-CREEcnMEDIALcFEcFAAIcFIcFIIcFOcFOOcFAcFAAcFWAAcnWEST-CREEcFcTHEcnN-CREEcTHIcnN-CREE",
  "cTHIIcnN-CREEcTHOcTHOOcTHAcTHAAcTHWAAcnWEST-CREEcTHcTTHEcTTHIcTTHOcTTHAcTTHcTYEcTYIcTYOcTYA",
  "cNUNAVIK HEdHIdHIIdHOdHOOdHAdHAAdHcnNUNAVUTcHKcQAAIcQIcQIIcQOcQOOcQAcQAAcQcTLHEcTLHIcTLHO",
  "cTLHAcWEST-CREE REdRIdROdRAcNGAAIcNGIcNGIIcNGOcNGOOcNGAcNGAAcNGcNNGcSAYISI SHEdSHIdSHOdSHA",
  "cWOODS-CREE THEdTHIdTHOdTHAdTHcLHIcLHIIcLHOcLHOOcLHAcLHAAcLHcTH-CREE THEdTHIdTHIIdTHOdTHOO",
  "dTHAdTHAAdTHcAIVILIK BcBLACKFOOT EdIdOdAdWEdWIdWOdWAdNEdNIdNOdNAdKEdKIdKOdKAcSAYISI HEdHIdHO",
  "dHAcCARRIER GHUdGHOdGHEdGHEEdGHIdGHAdRUdROdREdREEdRIdRAdWUdWOdWEdWEEdWIdWAdHWUdHWOdHWEdHWEE",
  "dHWIdHWAdTHUdTHOdTHEdTHEEdTHIdTHAdTTUdTTOdTTEdTTEEdTTIdTTAdPUdPOdPEdPEEdPIdPAdPdGUdGOdGEdGEE",
  "dGIdGAdKHUdKHOdKHEdKHEEdKHIdKHAdKKUdKKOdKKEdKKEEdKKIdKKAdKKdNUdNOdNEdNEEdNIdNAdMUdMOdMEdMEE",
  "dMIdMAdYUdYOdYEdYEEdYIdYAdJUcnSAYISIcCARRIER JOdJEdJEEdJIcnSAYISIcCARRIER JAdJJUdJJOdJJEdJJEE",
  "dJJIdJJAdLUdLOdLEdLEEdLIdLAdDLUdDLOdDLEdDLEEdDLIdDLAdLHUdLHOdLHEdLHEEdLHIdLHAdTLHUdTLHOdTLHE",
  "dTLHEEdTLHIdTLHAdTLUdTLOdTLEdTLEEdTLIdTLAdZUdZOdZEdZEEdZIdZAdZdnINITIALdDZUdDZOdDZEdDZEEdDZI",
  "dDZAdSUdSOdSEdSEEdSIdSAdSHUdSHOdSHEdSHEEdSHIdSHAdSHdTSUdTSOdTSEdTSEEdTSIdTSAdCHUdCHOdCHEdCHEE",
  "dCHIdCHAdTTSUdTTSOdTTSEdTTSEEdTTSIdTTSAcCHI SIGNcFULL STOPcQAIcNGAIcNNGIcNNGIIcNNGOcNNGOO",
  "cNNGAcNNGAAcWOODS-CREE THWEEdTHWIdTHWIIdTHWOdTHWOOdTHWAdTHWAAdFINAL THcBLACKFOOT W"
]

end ApiRouter.Text.Name
