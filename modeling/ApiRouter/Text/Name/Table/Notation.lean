set_option autoImplicit false

/-! # Names of characters

Kana variants, shorthand, music, mathematical alphabets, signs for gestures, and scripts of recent
times. -/

namespace ApiRouter.Text.Name

/-- The names of the characters from 1B000 to 1D7FF. -/
def musical : List String := [
  "=1B000aKATAKANA LETTER ARCHAIC EaHIRAGANA LETTER ARCHAIC YEaHENTAIGANA LETTER A-1+2cA-WOcI-1",
  "+3cU-1+4cE-2+4cO-1+2cKA-1+10cKA-KEcKI-1+7cKU-1+6cKE-1+5cKO-1+2cKO-KIcSA-1+7cSI-1+5cSU-1+7",
  "cSE-1+4cSO-1+6cTA-1+3cTI-1+6cTU-1+3cTU-TOcTE-1+8cTO-1+5cTO-RAcNA-1+8cNI-1+6cNI-TEcNU-1+2cNE-1",
  "+5cNE-KOcNO-1+4cHA-1+10cHI-1+6cHU-1+2cHE-1+6cHO-1+7cMA-1+6cMI-1+6cMU-1+3cME-1+1cME-MAcMO-1+5",
  "cYA-1+4cYA-YOcYU-1+3cYO-1+5cRA-1+3cRI-1+6cRU-1+5cRE-1+3cRO-1+5cWA-1+4cWI-1+4cWE-1+3cWO-1+6",
  "cN-MU-MO-1+1aHIRAGANA LETTER ARCHAIC WUaKATAKANA LETTER ARCHAIC YIdYEdWU=1B150",
  "aHIRAGANA LETTER SMALL WIdWEdWO=1B164aKATAKANA LETTER SMALL WIdWEdWOdN=1BC00",
  "aDUPLOYAN LETTER HcXcPcTcFcKcLcBcDcVcGcRcP NcD ScF NcK McR ScTHcSLOAN DHcncKKcSLOAN JcHLcLH",
  "cRHcMcNcJcScM NcN McnJcS JcM WITH DOTcoNcoJeDOTS INSIDE AND ABOVEcS WITH DOTfBELOWcM ScnNcnJ",
  "cnScnM NcnN McoJcnS JcJ S WITH DOTdNeScS TeRdPeRcT SdnRcWcWHcW RcS NdMcK R ScoGcS KeRcA",
  "cSLOAN OWcOAcOcAOUcIcEcIEcSHORT IcUIcEEcSLOAN EHcROMANIAN IcSLOAN EEcLONG IcYEcUcEUcXWcU N",
  "cLONG UcnROMANIANcUHcSLOAN UcOOHcOWcOUcWAcWOcWIcWEIcWOWcNASAL UdOdIdAcPERNIN ANdAMcSLOAN EN",
  "dANdONcVOCALIC M=1BC70bAFFIX LEFT HORIZONTAL SECANTcoMIDcoRIGHTcnLOW VERTICALcoMIDcoHIGH",
  "cnATTACHEDdnLEFT-TO-RIGHTdTANGENTdTAILdE HOOKdnIdnTANGENT=1BC80cHIGH ACUTEdnTIGHTdGRAVEdnLONG",
  "dDOTdCIRCLEdLINEdWAVEdVERTICAL=1BC90cLOW ACUTEdnTIGHTdGRAVEdnLONGdDOTdCIRCLEdLINEdWAVE",
  "dVERTICALdARROW=1BC9CbSIGN O WITH CROSSbTHICK LETTER SELECTORbDOUBLE MARK",
  "bPUNCTUATION CHINOOK FULL STOPaSHORTHAND FORMAT LETTER OVERLAPcnCONTINUINGcDOWN STEPcnUP",
  "=1CF00aZNAMENNY COMBINING MARK GORAZDO NIZKO S KRYZHEM ON LEFTdrdoTSATAdoGORAZDO NIZKOdp",
  "doSREDNEdoMALO POVYSHEdpdoVYSOKOdoMALO POVYSHE S KHOKHLOMdrdqVYSOKO",
  "dGORAZDO NIZKO S KRYZHEM ON RIGHTdrdoTSATAdoGORAZDO NIZKOdpdoSREDNEdoMALO POVYSHEdpdoVYSOKO",
  "doMALO POVYSHE S KHOKHLOMdrdqVYSOKOdTSATA S KRYZHEMdoMALO POVYSHEdSTRANNO MALO POVYSHE",
  "dPOVYSHE S KRYZHEMeSTRANNOdVYSOKO S KRYZHEMdMALO POVYSHE STRANNOdGORAZDO VYSOKOdZELOdONdRAVNO",
  "dTIKHAYAdBORZAYAdUDARKAdPODVERTKAdLOMKAdKUPNAYAdKACHKAdZEVOKdSKOBAdRAZSEKAdKRYZH ON LEFT",
  "=1CF30cTONAL RANGE MARK MRACHNOfSVETLOfTRESVETLOcMARK ZADERZHKAdnDEMESTVENNYdOTSECHKA",
  "dPODCHASHIEeWITH VERTICAL STROKEdCHASHKAePOLNAYAdOBLACHKOdSOROCHYA NOZHKAdTOCHKAdDVOETOCHIE",
  "cATTACHING VERTICAL OMETcnMARK CURVEDdKRYZHcLOWER TONAL RANGE INDICATOR",
  "bPRIZNAK MODIFIER LEVEL-2+1dDIRECTION FLIPdKRYZHdROG=1CF50bNEUME KRYUKdTIKHYcPARAKLIT",
  "cDVA V CHELNUcKLYUCHcZANOZHEKcSTOPITSAdS OCHKOMcPEREVODKAdNEPOSTOYANNAYA",
  "cSTOPITSA WITH SOROCHYA NOZHKAcCHELYUSTKAcPALKAcZAPYATAYAcGOLUBCHIK BORZYdTIKHYdMRACHNY",
  "dSVETLYdTRESVETLYcVRAKHIYA PROSTAYAdMRACHNAYAdSVETLAYAdTRESVETLAYAdKLYUCHEVAYA PROSTAYA",
  "eMRACHNAYAeSVETLAYAeTRESVETLAYAcDOUBLE ZAPYATAYAcREVERSED CHELYUSTKAcDERBITSAcKHAMILOcCHASHKA",
  "cPODCHASHIEcSKAMEYTSA MRACHNAYAdSVETLAYAdTRESVETLAYAdTIKHAYAcDEMESTVENNY KLYUCH",
  "cSKAMEYTSA KLYUCHEVAYA SVETLAYAdKLYUCHENEPOSTOYANNAYAdKLYUCHEVAYA TIKHAYA",
  "dDVOECHELNAYA PROSTAYAeSVETLAYAeNEPOSTOYANNAYAeKLYUCHEVAYAcSLOZHITIEdS ZAPYATOYdZAKRYTOE",
  "dS KRYZHEMcKRYZHcROGcFITAcKOBYLAcZMEYTSAcSTATYAdS ZAPYATOYeKRYZHEMenZAPYATOY I",
  "eKRYZHEM I ZAPYATOYdZAKRYTAYAeS ZAPYATOYdS ROGOMeDVUMYA ZAPYATYMIeZAPYATOY I PODCHASHIEM",
  "cPOLKULIZMYcSTATYA NEPOSTOYANNAYAcSTRELA PROSTAYAdMRACHNOTIKHAYAdKRYZHEVAYAdPOLUPOVODNAYA",
  "dPOVODNAYAdNEPOSTOYANNAYAdKLYUCHEPOVODNAYAdKLYUCHENEPOSTOYANNAYAdTIKHAYA PUTNAYAdDVOECHELNAYA",
  "dDVOECHELNOKRYZHEVAYAdDVOECHELNOPOVODNAYAdDVOECHELNAYA KLYUCHEVAYAdnDVOECHELNOPOVODNAYA",
  "dGROMNAYA WITH SINGLE ZAPYATAYAdpGROMOPOVODNAYAdGROMNAYAdGROMOPOVODNAYAeWITH DOUBLE ZAPYATAYA",
  "dGROMOKRYZHEVAYAePOVODNAYAcMECHIKdPOVODNYdKLYUCHEVOYdKLYUCHEPOVODNYdKLYUCHENEPOSTOYANNY",
  "cSTRELA TRYASOGLASNAYAdTRYASOPOVODNAYAdTRYASOSTRELNAYAcOSOKAdSVETLAYAdTRESVETLAYA",
  "dKRYUKOVAYA SVETLAYAdnKLYUCHEVAYAeNEPOSTOYANNAYAcSTRELA KRYUKOVAYAePOVODNAYA",
  "eGROMNAYA WITH SINGLE ZAPYATAYAepGROMOPOVODNAYAeGROMNAYAeGROMOPOVODNAYAfWITH DOUBLE ZAPYATAYA",
  "eGROMOKRYZHEVAYAfPOVODNAYAeTRYASKAcKUFISMAcOBLAKOcDUDAcNEMKAcPAUK=1D000",
  "aBYZANTINE MUSICAL SYMBOL PSILIdDASEIAdPERISPOMENIdOXEIA EKFONITIKONeDIPLIdVAREIA EKFONITIKON",
  "eDIPLIdKATHISTIdSYRMATIKIdPARAKLITIKIdYPOKRISISeDIPLIdKREMASTIdAPESO EKFONITIKONdnEXOdTELEIA",
  "dKENTIMATAdAPOSTROFOSeDIPLIdSYNEVMAdTHITAdOLIGON ARCHAIONdnGORGONdPSILONdCHAMILONdVATHY",
  "dISON ARCHAIONdnKENTIMAdnKENTIMATAdSAXIMATAdPARICHONdSTAVROS APODEXIAdOXEIAI ARCHAION",
  "dnVAREIAIdnAPODERMAdAPOTHEMAdKLASMAdREVMAdPIASMA ARCHAIONdTINAGMAdANATRICHISMAdSEISMA",
  "dSYNAGMA ARCHAIONeMETA STAVROUdOYRANISMA ARCHAIONdTHEMAdLEMOIdDYOdTRIAdTESSERAdKRATIMATA",
  "dAPESO EXO NEOdFTHORA ARCHAIONdIMIFTHORAdTROMIKON ARCHAIONdKATAVA TROMIKONdPELASTONdPSIFISTON",
  "dKONTEVMAdCHOREVMA ARCHAIONdRAPISMAdPARAKALESMA ARCHAIONdnPARAKLITIKIdICHADINdNANAdPETASMA",
  "dKONTEVMA ALLOdnTROMIKONdSTRAGGISMATAdGRONTHISMATAdISON NEOdnOLIGONdnOXEIAdPETASTIdKOUFISMA",
  "dPETASTOKOUFISMAdKRATIMOKOUFISMAdPELASTON NEOdKENTIMATA NEO ANOdoKENTIMAdYPSILI",
  "dAPOSTROFOS NEOdnAPOSTROFOI SYNDESMOSdYPORROIdKRATIMOYPORROONdELAFRONdCHAMILIdMIKRON ISON",
  "dVAREIA NEOdnPIASMAdnPSIFISTONdOMALONdANTIKENOMAdLYGISMAdPARAKLITIKI NEOdnPARAKALESMA",
  "dETERON PARAKALESMAdKYLISMAdANTIKENOKYLISMAdTROMIKON NEOdEKSTREPTONdSYNAGMA NEOdSYRMA",
  "dCHOREVMA NEOdEPEGERMAdSEISMA NEOdXIRON KLASMAdTROMIKOPSIFISTONdPSIFISTOLYGISMA",
  "dTROMIKOLYGISMAdTROMIKOPARAKALESMAdPSIFISTOPARAKALESMAdTROMIKOSYNAGMAdPSIFISTOSYNAGMA",
  "dGORGOSYNTHETONdARGOSYNTHETONdnETERONdOYRANISMA NEOdTHEMATISMOS ESOeEXOdTHEMA APLOUN",
  "dTHES KAI APOTHESdKATAVASMAdENDOFONONdYFEN KATOeANOdSTAVROSdKLASMA ANOdDIPLI ARCHAION",
  "dnKRATIMAeALLOeNEOdnAPODERMAdAPLIdDIPLIdTRIPLIdTETRAPLIdKORONISdLEIMMA ENOS CHRONOU",
  "eDYO CHRONONenTRIONenTESSARONeIMISEOS CHRONOUdGORGON NEO ANOePARESTIGMENON ARISTERAfDEXIA",
  "dDIGORGONePARESTIGMENON ARISTERA KATOgANOfDEXIAdTRIGORGONdARGONdIMIDIARGONdDIARGON",
  "dAGOGI POLI ARGIeARGOTERIeARGIeMETRIAeMESIeGORGIeGORGOTERIePOLI GORGIdMARTYRIA PROTOS ICHOS",
  "eoALLIenDEYTEROSeoALLIenTRITOSeTRIFONIASeTETARTOS ICHOSfnLEGETOSeoenPLAGIOS",
  "dISAKIA TELOUS ICHIMATOSdoAPOSTROFOIdFANEROSIS TETRAFONIASeMONOFONIASeDIFONIAS",
  "dMARTYRIA VARYS ICHOSenPROTOVARYSenPLAGIOS TETARTOSdGORTHMIKON N APLOUNfDIPLOUN",
  "dENARXIS KAI FTHORA VOUdIMIFONONdIMIFTHORONdFTHORA ARCHAION DEYTEROU ICHOUeDIATONIKI PAfNANA",
  "eNAOS ICHOSeDIATONIKI DIenSKLIRON DIATONONeDIATONIKI KEfZOfNI KATOgANO",
  "eMALAKON CHROMA DIFONIASgMONOFONIASdFHTORA SKLIRON CHROMA VASISdFTHORA SKLIRON CHROMA SYNAFI",
  "eNENANOdCHROA ZYGOSeKLITONeSPATHIdFTHORA I YFESIS TETARTIMORIONeENARMONIOS ANTIFONIA",
  "dYFESIS TRITIMORIONdnDIESISeTETARTIMORIONeAPLI DYO DODEKATAenMONOGRAMMOS TESSERA",
  "enDIGRAMMOS EXenTRIGRAMMOS OKTOdnYFESIS APLI DYOenMONOGRAMMOS TESSERAenDIGRAMMOS EX",
  "enTRIGRAMMOS OKTOdGENIKI DIESISeYFESISdDIASTOLI APLI MIKRIfMEGALIeDIPLIeTHESEOSdnSIMANSIS",
  "fDISIMOUfTRISIMOUfTETRASIMOUeARSEOSfDISIMOUfTRISIMOUfTETRASIMOUdDIGRAMMA GGdDIFTOGGOS OU",
  "dSTIGMAdARKTIKO PAeVOUeGAeDIeKEeZOeNIdKENTIMATA NEO MESOdoKENTIMAdKENTIMATA NEO KATOdoKENTIMA",
  "dnKLASMAdnGORGON NEO=1D100aMUSICAL SYMBOL SINGLE BARLINEcnDOUBLEcnFINALcoREVERSEcnDASHED",
  "cnSHORTcLEFT REPEAT SIGNcoRIGHTcREPEAT DOTScDAL SEGNOcDA CAPOcSEGNOcCODAcREPEATED FIGURE-1+2",
  "cFERMATAdBELOWcBREATH MARKcCAESURAcBRACEcBRACKETcONE-LINE STAFFcnTWO-LINEcnTHREE-LINE",
  "cnFOUR-LINEcnFIVE-LINEcnSIX-LINEcSIX-STRING FRETBOARDcnFOUR-STRINGcG CLEFeOTTAVA ALTAfBASSA",
  "cC CLEFcnFeOTTAVA ALTAfBASSAcDRUM CLEF-1+1=1D129cMULTIPLE MEASURE RESTcDOUBLE SHARPdFLAT",
  "cFLAT UPdDOWNcNATURAL UPdDOWNcSHARP UPdDOWNcQUARTER TONE SHARPeFLATcCOMMON TIMEcnCUT",
  "cOTTAVA ALTAdBASSAcQUINDICESIMA ALTAdBASSAcMULTI RESTcnWHOLEcnHALFcnQUARTERcnEIGHTH",
  "cnSIXTEENTHcnTHIRTY-SECONDcnSIXTY-FOURTHcnONE HUNDRED TWENTY-EIGHTHcX NOTEHEADcnPLUS",
  "cnCIRCLE XcSQUARE NOTEHEAD WHITEeBLACKcTRIANGLE NOTEHEAD UP WHITEfBLACKeLEFT WHITEfBLACK",
  "eRIGHT WHITEfBLACKeDOWN WHITEfBLACKeUP RIGHT WHITEgBLACKcMOON NOTEHEAD WHITEeBLACK",
  "cTRIANGLE-ROUND NOTEHEAD DOWN WHITEfBLACKcPARENTHESIS NOTEHEADcnVOIDcNOTEHEAD BLACK",
  "cNULL NOTEHEADcCLUSTER NOTEHEAD WHITEeBLACKcBREVEcWHOLE NOTEcnHALFcnQUARTERcnEIGHTH",
  "cnSIXTEENTHcnTHIRTY-SECONDcnSIXTY-FOURTHcnONE HUNDRED TWENTY-EIGHTHcCOMBINING STEM",
  "dnSPRECHGESANGdTREMOLO-1+2cFINGERED TREMOLO-1+2cCOMBINING AUGMENTATION DOTdFLAG-1+4",
  "cBEGIN BEAMcnENDcBEGIN TIEcnENDcBEGIN SLURcnENDcBEGIN PHRASEcnENDcCOMBINING ACCENTdSTACCATO",
  "dTENUTOdSTACCATISSIMOdMARCATOdMARCATO-STACCATOdACCENT-STACCATOdLOUREcARPEGGIATO UPdDOWN",
  "cCOMBINING DOITdRIPdFLIPdSMEARdBENDdDOUBLE TONGUEdnTRIPLEcRINFORZANDOcSUBITOcZcPIANOcMEZZO",
  "cFORTEcCRESCENDOcDECRESCENDOcGRACE NOTE SLASHenNOcTRcTURNcnINVERTEDcTURN SLASHdUP",
  "cORNAMENT STROKE-1+10cHAUPTSTIMMEcNEBENSTIMMEcEND OF STIMMEcDEGREE SLASHcCOMBINING DOWN BOW",
  "dnUPdHARMONICdSNAP PIZZICATOcPEDAL MARKdnUPcnHALF PEDALcGLISSANDO UPdDOWNcWITH FINGERNAILS",
  "cDAMPdALLcMAXIMAcLONGAcBREVIScSEMIBREVIS WHITEdBLACKcMINIMAdBLACKcSEMIMINIMA WHITEdBLACK",
  "cFUSA WHITEdBLACKcLONGA PERFECTA RESTdnIMPERFECTAcnBREVIScnSEMIBREVIScnMINIMAcnSEMIMINIMA",
  "cTEMPUS PERFECTUM CUM PROLATIONE PERFECTAgIMPERFECTAgPERFECTA DIMINUTION-1",
  "dIMPERFECTUM CUM PROLATIONE PERFECTAgIMPERFECTAhDIMINUTION-1+2cCROIXcGREGORIAN C CLEFdnF",
  "cSQUARE BcVIRGAcPODATUScCLIVIScSCANDICUScCLIMACUScTORCULUScPORRECTUSdFLEXUScnSCANDICUS",
  "cTORCULUS RESUPINUScPES SUBPUNCTIScKIEVAN C CLEFdEND OF PIECEdFINAL NOTEdRECITATIVE MARK",
  "dWHOLE NOTEdnHALFdQUARTER NOTE STEM DOWNgUPdEIGHTH NOTE STEM DOWNgUPdFLAT SIGNcSORIcKORON",
  "=1D200aGREEK VOCAL NOTATION SYMBOL-1+23dSYMBOL-50+4bINSTRUMENTAL NOTATION SYMBOL-1+1dSYMBOL-4",
  "+1dSYMBOL-7+1dSYMBOL-11+3dSYMBOL-17+2dSYMBOL-23+4dSYMBOL-29+1dSYMBOL-32dSYMBOL-36+4dSYMBOL-42",
  "+1dSYMBOL-45dSYMBOL-47+7aCOMBINING GREEK MUSICAL TRISEMEdTETRASEMEdPENTASEME",
  "aGREEK MUSICAL LEIMMA=1D2E0aMAYAN NUMERAL ZEROcONEcTWOcTHREEcFOURcFIVEcSIXcSEVENcEIGHTcNINE",
  "cTENcELEVENcTWELVEcTHIRTEENcFOURTEENcFIFTEENcSIXTEENcSEVENTEENcEIGHTEENcNINETEEN=1D300",
  "aMONOGRAM FOR EARTHanDIGRAM FOR HEAVENLYcnHUMANcEARTHLY HEAVENdHUMANcEARTH",
  "aTETRAGRAM FOR CENTREcFULL CIRCLEcMIREDcBARRIERcKEEPING SMALLcCONTRARIETYcASCENTcOPPOSITION",
  "cBRANCHING OUTcDEFECTIVENESS OR DISTORTIONcDIVERGENCEcYOUTHFULNESScINCREASEcPENETRATIONcREACH",
  "cCONTACTcHOLDING BACKcWAITINGcFOLLOWINGcADVANCEcRELEASEcRESISTANCEcEASEcJOYcCONTENTION",
  "cENDEAVOURcDUTIEScCHANGEcDECISIVENESScBOLD RESOLUTIONcPACKINGcLEGIONcCLOSENESScKINSHIP",
  "cGATHERINGcSTRENGTHcPURITYcFULLNESScRESIDENCEcLAW OR MODELcRESPONSEcGOING TO MEETcENCOUNTERS",
  "cSTOVEcGREATNESScENLARGEMENTcPATTERNcRITUALcFLIGHTcVASTNESS OR WASTINGcCONSTANCYcMEASURE",
  "cETERNITYcUNITYcDIMINISHMENTcCLOSED MOUTHcGUARDEDNESScGATHERING INcMASSINGcACCUMULATION",
  "cEMBELLISHMENTcDOUBTcWATCHcSINKINGcINNERcDEPARTUREcDARKENINGcDIMMINGcEXHAUSTIONcSEVERANCE",
  "cSTOPPAGEcHARDNESScCOMPLETIONcCLOSUREcFAILUREcAGGRAVATIONcCOMPLIANCEcON THE VERGE",
  "cDIFFICULTIEScLABOURINGcFOSTERING=1D360aCOUNTING ROD UNIT DIGIT ONEeTWOeTHREEeFOUReFIVEeSIX",
  "eSEVENeEIGHTeNINEcTENS DIGIT ONEeTWOeTHREEeFOUReFIVEeSIXeSEVENeEIGHTeNINE",
  "aIDEOGRAPHIC TALLY MARK ONEdTWOdTHREEdFOURdFIVEaTALLY MARK ONEcFIVE=1D400",
  "aMATHEMATICAL BOLD CAPITAL AdBdCdDdEdFdGdHdIdJdKdLdMdNdOdPdQdRdSdTdUdVdWdXdYdZcSMALL AdBdCdD",
  "dEdFdGdHdIdJdKdLdMdNdOdPdQdRdSdTdUdVdWdXdYdZbITALIC CAPITAL AdBdCdDdEdFdGdHdIdJdKdLdMdNdOdPdQ",
  "dRdSdTdUdVdWdXdYdZcSMALL AdBdCdDdEdFdG=1D456dIdJdKdLdMdNdOdPdQdRdSdTdUdVdWdXdYdZ",
  "bBOLD ITALIC CAPITAL AeBeCeDeEeFeGeHeIeJeKeLeMeNeOePeQeReSeTeUeVeWeXeYeZdSMALL AeBeCeDeEeFeG",
  "eHeIeJeKeLeMeNeOePeQeReSeTeUeVeWeXeYeZbSCRIPT CAPITAL A=1D49EdCdD=1D4A2dG=1D4A5dJdK=1D4A9dNdO",
  "dPdQ=1D4AEdSdTdUdVdWdXdYdZcSMALL AdBdCdD=1D4BBdF=1D4BDdHdIdJdKdLdMdN=1D4C5dPdQdRdSdTdUdVdWdX",
  "dYdZbBOLD SCRIPT CAPITAL AeBeCeDeEeFeGeHeIeJeKeLeMeNeOePeQeReSeTeUeVeWeXeYeZdSMALL AeBeCeDeE",
  "eFeGeHeIeJeKeLeMeNeOePeQeReSeTeUeVeWeXeYeZbFRAKTUR CAPITAL AdB=1D507dDdEdFdG=1D50DdJdKdLdMdN",
  "dOdPdQ=1D516dSdTdUdVdWdXdY=1D51EcSMALL AdBdCdDdEdFdGdHdIdJdKdLdMdNdOdPdQdRdSdTdUdVdWdXdYdZ",
  "bDOUBLE-STRUCK CAPITAL AdB=1D53BdDdEdFdG=1D540dIdJdKdLdM=1D546dO=1D54AdSdTdUdVdWdXdY=1D552",
  "cSMALL AdBdCdDdEdFdGdHdIdJdKdLdMdNdOdPdQdRdSdTdUdVdWdXdYdZbBOLD FRAKTUR CAPITAL AeBeCeDeEeFeG",
  "eHeIeJeKeLeMeNeOePeQeReSeTeUeVeWeXeYeZdSMALL AeBeCeDeEeFeGeHeIeJeKeLeMeNeOePeQeReSeTeUeVeWeX",
  "eYeZbSANS-SERIF CAPITAL AdBdCdDdEdFdGdHdIdJdKdLdMdNdOdPdQdRdSdTdUdVdWdXdYdZcSMALL AdBdCdDdEdF",
  "dGdHdIdJdKdLdMdNdOdPdQdRdSdTdUdVdWdXdYdZcBOLD CAPITAL AeBeCeDeEeFeGeHeIeJeKeLeMeNeOePeQeReSeT",
  "eUeVeWeXeYeZdSMALL AeBeCeDeEeFeGeHeIeJeKeLeMeNeOePeQeReSeTeUeVeWeXeYeZcITALIC CAPITAL AeBeCeD",
  "eEeFeGeHeIeJeKeLeMeNeOePeQeReSeTeUeVeWeXeYeZdSMALL AeBeCeDeEeFeGeHeIeJeKeLeMeNeOePeQeReSeTeU",
  "eVeWeXeYeZcBOLD ITALIC CAPITAL AfBfCfDfEfFfGfHfIfJfKfLfMfNfOfPfQfRfSfTfUfVfWfXfYfZeSMALL AfB",
  "fCfDfEfFfGfHfIfJfKfLfMfNfOfPfQfRfSfTfUfVfWfXfYfZbMONOSPACE CAPITAL AdBdCdDdEdFdGdHdIdJdKdLdM",
  "dNdOdPdQdRdSdTdUdVdWdXdYdZcSMALL AdBdCdDdEdFdGdHdIdJdKdLdMdNdOdPdQdRdSdTdUdVdWdXdYdZ",
  "bITALIC SMALL DOTLESS IeJ=1D6A8bBOLD CAPITAL ALPHAdBETAdGAMMAdDELTAdEPSILONdZETAdETAdTHETA",
  "dIOTAdKAPPAdLAMDAdMUdNUdXIdOMICRONdPIdRHOdTHETA SYMBOLdSIGMAdTAUdUPSILONdPHIdCHIdPSIdOMEGA",
  "cNABLAcSMALL ALPHAdBETAdGAMMAdDELTAdEPSILONdZETAdETAdTHETAdIOTAdKAPPAdLAMDAdMUdNUdXIdOMICRON",
  "dPIdRHOdFINAL SIGMAdndTAUdUPSILONdPHIdCHIdPSIdOMEGAcPARTIAL DIFFERENTIALcEPSILON SYMBOL",
  "cnTHETAcnKAPPAcnPHIcnRHOcnPIbITALIC CAPITAL ALPHAdBETAdGAMMAdDELTAdEPSILONdZETAdETAdTHETA",
  "dIOTAdKAPPAdLAMDAdMUdNUdXIdOMICRONdPIdRHOdTHETA SYMBOLdSIGMAdTAUdUPSILONdPHIdCHIdPSIdOMEGA",
  "cNABLAcSMALL ALPHAdBETAdGAMMAdDELTAdEPSILONdZETAdETAdTHETAdIOTAdKAPPAdLAMDAdMUdNUdXIdOMICRON",
  "dPIdRHOdFINAL SIGMAdndTAUdUPSILONdPHIdCHIdPSIdOMEGAcPARTIAL DIFFERENTIALcEPSILON SYMBOL",
  "cnTHETAcnKAPPAcnPHIcnRHOcnPIbBOLD ITALIC CAPITAL ALPHAeBETAeGAMMAeDELTAeEPSILONeZETAeETA",
  "eTHETAeIOTAeKAPPAeLAMDAeMUeNUeXIeOMICRONePIeRHOeTHETA SYMBOLeSIGMAeTAUeUPSILONePHIeCHIePSI",
  "eOMEGAdNABLAdSMALL ALPHAeBETAeGAMMAeDELTAeEPSILONeZETAeETAeTHETAeIOTAeKAPPAeLAMDAeMUeNUeXI",
  "eOMICRONePIeRHOeFINAL SIGMAeneTAUeUPSILONePHIeCHIePSIeOMEGAdPARTIAL DIFFERENTIAL",
  "dEPSILON SYMBOLdnTHETAdnKAPPAdnPHIdnRHOdnPIbSANS-SERIF BOLD CAPITAL ALPHAeBETAeGAMMAeDELTA",
  "eEPSILONeZETAeETAeTHETAeIOTAeKAPPAeLAMDAeMUeNUeXIeOMICRONePIeRHOeTHETA SYMBOLeSIGMAeTAU",
  "eUPSILONePHIeCHIePSIeOMEGAdNABLAdSMALL ALPHAeBETAeGAMMAeDELTAeEPSILONeZETAeETAeTHETAeIOTA",
  "eKAPPAeLAMDAeMUeNUeXIeOMICRONePIeRHOeFINAL SIGMAeneTAUeUPSILONePHIeCHIePSIeOMEGA",
  "dPARTIAL DIFFERENTIALdEPSILON SYMBOLdnTHETAdnKAPPAdnPHIdnRHOdnPIdITALIC CAPITAL ALPHAfBETA",
  "fGAMMAfDELTAfEPSILONfZETAfETAfTHETAfIOTAfKAPPAfLAMDAfMUfNUfXIfOMICRONfPIfRHOfTHETA SYMBOL",
  "fSIGMAfTAUfUPSILONfPHIfCHIfPSIfOMEGAeNABLAeSMALL ALPHAfBETAfGAMMAfDELTAfEPSILONfZETAfETA",
  "fTHETAfIOTAfKAPPAfLAMDAfMUfNUfXIfOMICRONfPIfRHOfFINAL SIGMAfnfTAUfUPSILONfPHIfCHIfPSIfOMEGA",
  "ePARTIAL DIFFERENTIALeEPSILON SYMBOLenTHETAenKAPPAenPHIenRHOenPIbBOLD CAPITAL DIGAMMAcnSMALL",
  "=1D7CEcDIGIT ZEROdONEdTWOdTHREEdFOURdFIVEdSIXdSEVENdEIGHTdNINEbDOUBLE-STRUCK DIGIT ZEROdONE",
  "dTWOdTHREEdFOURdFIVEdSIXdSEVENdEIGHTdNINEbSANS-SERIF DIGIT ZEROdONEdTWOdTHREEdFOURdFIVEdSIX",
  "dSEVENdEIGHTdNINEcBOLD DIGIT ZEROeONEeTWOeTHREEeFOUReFIVEeSIXeSEVENeEIGHTeNINE",
  "bMONOSPACE DIGIT ZEROdONEdTWOdTHREEdFOURdFIVEdSIXdSEVENdEIGHTdNINE"
]

/-- The names of the characters from 1D800 to 1EEF1. -/
def gestural : List String := [
  "=1D800aSIGNWRITING HAND-FIST INDEXbnHAND-CIRCLEbnHAND-CUPbnHAND-OVALbnHAND-HINGEbnHAND-ANGLE",
  "bHAND-FIST INDEX BENTboHAND-CIRCLEboHAND-FIST THUMB UNDERcINDEX RAISED KNUCKLEdCUPPEDdHINGED",
  "eLOWbHAND-CIRCLE INDEX HINGEbHAND-FIST INDEX MIDDLEboHAND-CIRCLEbHAND-FIST INDEX MIDDLE BENT",
  "eRAISED KNUCKLESeHINGEDdoUPdHINGED MIDDLE UPdMIDDLE CONJOINEDfINDEX BENTfnMIDDLEfCUPPED",
  "fHINGEDeCROSSEDbpHAND-CIRCLEbHAND-FIST MIDDLE BENT OVER INDEXcINDEX BENT OVER MIDDLE",
  "dMIDDLE THUMBbpHAND-CIRCLEbHAND-FIST INDEX MIDDLE STRAIGHT THUMB BENTeBENT THUMB STRAIGHT",
  "eTHUMB BENTeHINGED SPREAD THUMB SIDEdoUP MIDDLE HINGEDhCONJOINEDdHINGED MIDDLE UP THUMB SIDE",
  "dMIDDLE UP SPREAD THUMB FORWARDeTHUMB CUPPEDfCIRCLEDfHOOKEDfHINGED",
  "cTHUMB BETWEEN INDEX MIDDLE STRAIGHTcINDEX MIDDLE CONJOINED THUMB SIDEhCONJOINEDhBENT",
  "cMIDDLE THUMB HOOKED INDEX UPcnINDEX THUMB HOOKED MIDDLEdMIDDLE CONJOINED HINGED THUMB SIDE",
  "eoCROSSEDeCONJOINED THUMB FORWARDfoCUPPEDcMIDDLE THUMB CUPPED INDEX UP",
  "cnINDEX THUMB CUPPED MIDDLEcnMIDDLE THUMB CIRCLED INDEXgHINGED",
  "cINDEX THUMB ANGLED OUT MIDDLE UPfoINeoCIRCLEDdMIDDLE THUMB CONJOINED HINGEDfANGLED OUTg",
  "cMIDDLE THUMB ANGLED OUT INDEX UPhCROSSEDfINDEX UPcINDEX THUMB HOOKED MIDDLE HINGED",
  "bHAND-FLAT FOUR FINGERSeBENTeHINGEDeCONJOINEDfSPLITbHAND-CLAW FOUR FINGERS CONJOINED",
  "bHAND-FIST FOUR FINGERS CONJOINED BENTbHAND-HINGE FOUR FINGERS CONJOINED",
  "bHAND-FLAT FIVE FINGERS SPREADcpHEELcFIVE FINGERS SPREAD FOUR BENTcrHEELcnFIVE FINGERS SPREAD",
  "cqHEELcFIVE FINGERS SPREAD THUMB FORWARDbHAND-CUP FIVE FINGERS SPREADfOPENbqHAND-HINGE",
  "bHAND-OVAL FIVE FINGERS SPREADbHAND-FLAT FIVE FINGERS SPREAD HINGEDgTHUMB SIDEgNO THUMBc",
  "cBETWEEN PALM FACINGScHEELcTHUMB SIDEcoHEELcTHUMB BENTdFORWARDcSPLIT INDEX THUMB SIDEdCENTRE",
  "eTHUMB SIDEgBENTdLITTLEbHAND-CLAWcTHUMB SIDEcNO THUMBcTHUMB FORWARDbHAND-HOOK CURLICUEc",
  "bHAND-CUP OPENccOPEN THUMB SIDEcocOPEN NO THUMBcocOPEN THUMB FORWARDcobHAND-CURLICUE OPENc",
  "bHAND-CIRCLEbHAND-OVALcTHUMB SIDEcNO THUMBcTHUMB FORWARDbHAND-HINGE OPENdTHUMB FORWARDccSMALL",
  "cOPEN THUMB SIDEcocOPEN NO THUMBcocTHUMB SIDE TOUCHING INDEXdBETWEEN MIDDLE RINGbHAND-ANGLE",
  "bHAND-FIST INDEX MIDDLE RINGbpHAND-CIRCLEbpHAND-HINGEbpHAND-ANGLEbHAND-HINGE LITTLE",
  "bHAND-FIST INDEX MIDDLE RING BENTfCONJOINEDbqHAND-HINGEbHAND-FIST LITTLE DOWNeRIPPLE STRAIGHT",
  "fCURVEDeOTHERS CIRCLEDdUPcoTHUMB UNDERboHAND-CIRCLEboHAND-OVALboHAND-ANGLE",
  "bHAND-FIST LITTLE RAISED KNUCKLEdBENTdTOUCHES THUMBdnboHAND-HINGEbnHAND-FIST LITTLE INDEX",
  "bpHAND-HINGEbHAND-ANGLE LITTLE INDEX THUMB INDEX THUMB OUThbHAND-FIST LITTLE INDEX",
  "boHAND-CIRCLEboHAND-HINGEboHAND-ANGLEbHAND-FIST INDEX MIDDLE LITTLEbpHAND-CIRCLEbpHAND-HINGE",
  "cRINGbHAND-ANGLE INDEX MIDDLE LITTLEbnHAND-FIST INDEX MIDDLE CROSSbqHAND-CIRCLE",
  "bHAND-FIST RING DOWNbHAND-HINGE RING DOWN INDEX THUMB HOOK MIDDLE",
  "bHAND-ANGLE RING DOWN MIDDLE THUMB INDEX CROSSbHAND-FIST RING UPdRAISED KNUCKLEdLITTLE",
  "boHAND-CIRCLEboHAND-OVALboHAND-ANGLEbHAND-FIST RING MIDDLEeCONJOINEDeRAISED KNUCKLESdINDEX",
  "dTHUMBboHAND-HOOKbHAND-FIST INDEX RING LITTLEbpHAND-CIRCLEbHAND-CURLICUE INDEX RING LITTLE ON",
  "bHAND-HOOK INDEX RING LITTLE OUTfINfUNDERbHAND-CUP INDEX RING LITTLEbpHAND-HINGE",
  "bHAND-ANGLE INDEX RING LITTLE OUTfbHAND-FIST MIDDLE DOWNbHAND-HINGE MIDDLE",
  "bHAND-FIST MIDDLE UPboHAND-CIRCLEbHAND-FIST MIDDLE RAISED KNUCKLEdUP THUMB SIDE",
  "bHAND-HOOK MIDDLE THUMBbHAND-FIST MIDDLE THUMB LITTLEdndnRINGbpHAND-CIRCLE",
  "bHAND-CURLICUE MIDDLE RING LITTLE ONbHAND-CUP MIDDLE RING LITTLEbpHAND-HINGE",
  "bHAND-ANGLE MIDDLE RING LITTLE OUTfINfbHAND-CIRCLE MIDDLE RING LITTLE BENT",
  "bHAND-CLAW MIDDLE RING LITTLE CONJOINEDgSIDEbHAND-HOOK MIDDLE RING LITTLE CONJOINED OUTgINg",
  "bHAND-HINGE INDEX HINGEDbHAND-FIST INDEX THUMB SIDEbpHAND-HINGE",
  "bHAND-FIST INDEX THUMB SIDE THUMB DIAGONALgCONJOINEDgBENTfnINDEXfnBOTHfINDEX HINGE",
  "eFORWARD INDEX STRAIGHTgBENTeHOOKeCURLICUEeCURVE THUMB INSIDEbrHAND-CLAW",
  "bHAND-FIST INDEX THUMB CURVE THUMB UNDEReCIRCLEbHAND-CUP INDEX THUMBeOPENbpHAND-HINGEeLARGEe",
  "eSMALLbHAND-ANGLE INDEX THUMB OUTeINebnHAND-FISTdHEELdSIDE DIAGONALeCONJOINEDeBENTdFORWARD",
  "dBETWEEN INDEX MIDDLEeMIDDLE RINGeRING LITTLEdUNDER TWO FINGERSdoOVERdnUNDER THREEenFOUR",
  "dOVER FOUR RAISED KNUCKLESccHEELbTOUCH SINGLEcMULTIPLEcBETWEENbGRASP SINGLEcMULTIPLEcBETWEEN",
  "bSTRIKE SINGLEcMULTIPLEcBETWEENbBRUSH SINGLEcMULTIPLEcBETWEENbRUB SINGLEcMULTIPLEcBETWEEN",
  "bSURFACE SYMBOLScBETWEENbSQUEEZE LARGE SINGLEcnSMALLcLARGE MULTIPLEcnSMALLcSEQUENTIAL",
  "bFLICK LARGE SINGLEcnSMALLcLARGE MULTIPLEcnSMALLcSEQUENTIALbSQUEEZE FLICK ALTERNATING",
  "bMOVEMENT-HINGE UP DOWN LARGEeSMALLdSEQUENTIALcnDOWNcUP DOWN ALTERNATING LARGEfSMALL",
  "cSIDE TO SIDE SCISSORSbMOVEMENT-WALLPLANE FINGER CONTACTboMOVEMENT-FLOORPLANE",
  "bMOVEMENT-WALLPLANE SINGLE STRAIGHT SMALLeMEDIUMeLARGEeLARGESTdWRIST FLEXcDOUBLE STRAIGHT",
  "dWRIST FLEXdALTERNATINGeWRIST FLEXcCROSScTRIPLE STRAIGHT MOVEMENTdWRIST FLEXdALTERNATING",
  "eWRIST FLEXcBEND SMALLdMEDIUMdLARGEcCORNER SMALLdMEDIUMdLARGEdROTATIONcCHECK SMALLdMEDIUM",
  "dLARGEcBOX SMALLdMEDIUMdLARGEcZIGZAG SMALLdMEDIUMdLARGEcPEAKS SMALLdMEDIUMdLARGE",
  "bTRAVEL-WALLPLANE ROTATION-WALLPLANE SINGLEdDOUBLEdALTERNATINGcROTATION-FLOORPLANE SINGLE",
  "dDOUBLEdALTERNATINGcSHAKINGcARM SPIRAL SINGLEeDOUBLEeTRIPLEbMOVEMENT-DIAGONAL AWAY SMALL",
  "dMEDIUMdLARGEdLARGESTcTOWARDS SMALLdMEDIUMdLARGEdLARGESTcBETWEEN AWAY SMALLeMEDIUMeLARGE",
  "eLARGESTdTOWARDS SMALLeMEDIUMeLARGEeLARGESTbMOVEMENT-FLOORPLANE SINGLE STRAIGHT SMALLeMEDIUM",
  "eLARGEeLARGESTdWRIST FLEXcDOUBLE STRAIGHTdWRIST FLEXdALTERNATINGeWRIST FLEXcCROSS",
  "cTRIPLE STRAIGHT MOVEMENTdWRIST FLEXdALTERNATING MOVEMENTeWRIST FLEXcBENDcCORNER SMALLdMEDIUM",
  "dLARGEcCHECKcBOX SMALLdMEDIUMdLARGEcZIGZAG SMALLdMEDIUMdLARGEcPEAKS SMALLdMEDIUMdLARGE",
  "bTRAVEL-FLOORPLANE ROTATION-FLOORPLANE SINGLEdDOUBLEdALTERNATINGcROTATION-WALLPLANE SINGLE",
  "dDOUBLEdALTERNATINGcSHAKINGbMOVEMENT-WALLPLANE CURVE QUARTER SMALLeMEDIUMeLARGEeLARGEST",
  "dHALF-CIRCLE SMALLeMEDIUMeLARGEeLARGESTdTHREE-QUARTER CIRCLE SMALLfMEDIUMcHUMP SMALLdMEDIUM",
  "dLARGEcLOOP SMALLdMEDIUMdLARGEdSMALL DOUBLEcWAVE CURVE DOUBLE SMALLfMEDIUMfLARGEeTRIPLE SMALL",
  "fMEDIUMfLARGEcCURVE THEN STRAIGHTcCURVED CROSS SMALLeMEDIUMbROTATION-WALLPLANE SINGLEcDOUBLE",
  "cALTERNATEbMOVEMENT-WALLPLANE SHAKINGcCURVE HITTING FRONT WALLcpHUMPcpLOOPcpWAVE",
  "bpROTATION-WALLPLANE SINGLEcpDOUBLEcpALTERNATINGbMOVEMENT-WALLPLANE CURVE HITTING CHESTcoHUMP",
  "coLOOPcoWAVEboROTATION-WALLPLANE SINGLEcoDOUBLEcoALTERNATING",
  "bMOVEMENT-WALLPLANE WAVE DIAGONAL PATH SMALLfMEDIUMfLARGE",
  "bMOVEMENT-FLOORPLANE CURVE HITTING CEILING SMALLfLARGEcHUMP HITTING CEILING SMALL DOUBLE",
  "fnLARGEfSMALL TRIPLEfnLARGEcLOOP HITTING CEILING SMALL SINGLEfnLARGEfSMALL DOUBLEfnLARGE",
  "cWAVE HITTING CEILING SMALLfLARGEbROTATION-FLOORPLANE SINGLE HITTING CEILINGcoDOUBLE",
  "coALTERNATINGbMOVEMENT-FLOORPLANE CURVE HITTING FLOOR SMALLfLARGE",
  "cHUMP HITTING FLOOR SMALL DOUBLEfnLARGEfTRIPLE SMALL TRIPLEgnLARGE",
  "cLOOP HITTING FLOOR SMALL SINGLEfnLARGEfSMALL DOUBLEfnLARGEcWAVE HITTING FLOOR SMALLfLARGE",
  "bROTATION-FLOORPLANE SINGLE HITTING FLOORcoDOUBLEcoALTERNATING",
  "bMOVEMENT-FLOORPLANE CURVE SMALLdMEDIUMdLARGEdLARGESTdCOMBINEDcHUMP SMALLcnLOOPcWAVE SNAKE",
  "dSMALLdLARGEbROTATION-FLOORPLANE SINGLEcDOUBLEcALTERNATING",
  "bMOVEMENT-FLOORPLANE SHAKING PARALLELbMOVEMENT-WALLPLANE ARM CIRCLE SMALL SINGLEenMEDIUM",
  "eSMALL DOUBLEenMEDIUMbMOVEMENT-FLOORPLANE ARM CIRCLE HITTING WALL SMALL SINGLEgnMEDIUMgnLARGE",
  "gSMALL DOUBLEgnMEDIUMgnLARGEbMOVEMENT-WALLPLANE WRIST CIRCLE FRONT SINGLEfDOUBLE",
  "bMOVEMENT-FLOORPLANE WRIST CIRCLE HITTING WALL SINGLEgDOUBLE",
  "bMOVEMENT-WALLPLANE FINGER CIRCLES SINGLEeDOUBLE",
  "bMOVEMENT-FLOORPLANE FINGER CIRCLES HITTING WALL SINGLEgDOUBLEbDYNAMIC ARROWHEAD SMALLdLARGE",
  "cFASTcSLOWcTENSEcRELAXEDcSIMULTANEOUSdALTERNATINGcEVERY OTHER TIMEcGRADUALbHEADcRIM",
  "cMOVEMENT-WALLPLANE STRAIGHTdTILTcMOVEMENT-FLOORPLANE STRAIGHTcMOVEMENT-WALLPLANE CURVE",
  "cnMOVEMENT-FLOORPLANEcMOVEMENT CIRCLEbFACE DIRECTION POSITION NOSE FORWARD TILTINGfUP OR DOWN",
  "iTILTINGbEYEBROWS STRAIGHT UPdNEUTRALdDOWNbnDREAMY EYEBROWS NEUTRALdDOWN NEUTRALdnUP",
  "dNEUTRAL UPbFOREHEAD NEUTRALcCONTACTcWRINKLEDbEYES OPENcSQUEEZEDcCLOSEDbEYE BLINK SINGLE",
  "dMULTIPLEbEYES HALF OPENcnWIDEcHALF CLOSEDcWIDENING MOVEMENTbEYE WINKbEYELASHES UPcDOWN",
  "cFLUTTERINGbEYEGAZE-WALLPLANE STRAIGHTdDOUBLEdALTERNATINGbEYEGAZE-FLOORPLANE STRAIGHTdDOUBLE",
  "dALTERNATINGbEYEGAZE-WALLPLANE CURVEDbnEYEGAZE-FLOORPLANEbEYEGAZE-WALLPLANE CIRCLING",
  "bCHEEKS PUFFEDcNEUTRALcSUCKEDbTENSE CHEEKS HIGHdMIDDLEdLOWbEARSbNOSE NEUTRALcCONTACTcWRINKLES",
  "cWIGGLESbAIR BLOWING OUTcSUCKING INcBLOW SMALL ROTATIONScoSUCKbBREATH INHALEcEXHALE",
  "bMOUTH CLOSED NEUTRALdFORWARDdCONTACTcSMILEdWRINKLEDdOPENcFROWNdWRINKLEDdOPENcOPEN CIRCLE",
  "dFORWARDdWRINKLEDdOVALeWRINKLEDeYAWNdRECTANGLEeWRINKLEDeYAWNcKISSdFORWARDdWRINKLEDcTENSE",
  "dFORWARDdSUCKEDbLIPS PRESSED TOGETHERbLIP LOWER OVER UPPERcUPPER OVER LOWERbMOUTH CORNERS",
  "cWRINKLES SINGLEdDOUBLEbTONGUE STICKING OUT FARcLICKING LIPScnTIP BETWEEN",
  "dTOUCHING INSIDE MOUTHcINSIDE MOUTH RELAXEDcMOVES AGAINST CHEEKcCENTRE STICKING OUT",
  "dINSIDE MOUTHbTEETHcMOVEMENTcON TONGUEeMOVEMENTdLIPSeMOVEMENTcBITE LIPS",
  "bMOVEMENT-WALLPLANE JAWbnMOVEMENT-FLOORPLANEbNECKbHAIRbEXCITEMENTbSHOULDER HIP SPINE",
  "dPOSITIONSbWALLPLANE SHOULDER HIP MOVEbpFLOORPLANEbSHOULDER TILTING FROM WAIST",
  "bTORSO-WALLPLANE STRAIGHT STRETCHcCURVED BENDbTORSO-FLOORPLANE TWISTING",
  "bUPPER BODY TILTING FROM HIP JOINTSbLIMB COMBINATIONcLENGTH-1+6bFINGER",
  "bLOCATION-WALLPLANE SPACEbnLOCATION-FLOORPLANEbLOCATION HEIGHTcWIDTHcDEPTHcHEAD NECKcTORSO",
  "cLIMBS DIGITSbCOMMAbFULL STOPbSEMICOLONbCOLONbPARENTHESIS=1DA9BbFILL MODIFIER-2+4=1DAA1",
  "bROTATION MODIFIER-2+14=1DF00aLATIN SMALL LETTER FENG DIGRAPH WITH TRILLdREVERSED SCRIPT G",
  "bnLETTER SMALL CAPITAL TURNEDbSMALL LETTER REVERSED KbLETTER SMALL CAPITAL L WITH BELT",
  "bSMALL LETTER LEZH WITH RETROFLEX HOOKdTURNED Y WITH BELTdREVERSED ENG",
  "dTURNED R WITH LONG LEG AND RETROFLEX HOOKdpT WITH HOOKboLETTER RETROFLEX CLICK WITH",
  "bSMALL LETTER ESH WITH DOUBLE BARhAND CURLdnTURNED T WITHboLETTER INVERTED GLOTTAL STOP",
  "coSTRETCHED CcSMALL CAPITAL TURNED KbSMALL LETTER L WITH FISHHOOK",
  "dDEZH DIGRAPH WITH PALATAL HOOKdoL WITH BELT ANDdoENG WITHdpTURNED RdoR WITH FISHHOOK AND",
  "doTESH DIGRAPH WITHdpEZHdnDEZH DIGRAPH WITH RETROFLEXdoI WITH STROKE ANDdoO WITH",
  "dpTESH DIGRAPHdpCdS WITH CURL=1E000aCOMBINING GLAGOLITIC LETTER AZUdBUKYdVEDEdGLAGOLIdDOBRO",
  "dYESTUdZHIVETE=1E008dZEMLJAdIZHEdnINITIALdIdDJERVIdKAKOdLJUDIJEdMYSLITEdNASHIdONUdPOKOJI",
  "dRITSIdSLOVOdTVRIDOdUKUdFRITUdHERU=1E01BdSHTAdTSIdCHRIVIdSHAdYERUdYERIdYATI=1E023dYU",
  "dSMALL YUS=1E026dYOdIOTATED SMALL YUSdnBIGdoIOTATEDdFITA=1E100",
  "aNYIAKENG PUACHUE HMONG LETTER MAeTSAeNTAeTAeHAeNAeXAeNKAeCAeLAeSAeZAeNCAeNTSAeKAeDAeNYAeNRA",
  "eVAeNTXAeTXAeFAeRAeQAeYAeNQAePAeXYAeNPAeDLAeNPLAeHAHeMLAePLAeGAeRRAeAeAAeIeUeOeOOeEeEEeW",
  "=1E130dTONE-BdTONE-MdTONE-JdTONE-VdTONE-SdTONE-GdTONE-DdSIGN FOR PERSONfTHINGfLOCATIONfANIMAL",
  "fINVERTEBRATEeXW XWdSYLLABLE LENGTHENER=1E140dDIGIT ZEROeONEeTWOeTHREEeFOUReFIVEeSIXeSEVEN",
  "eEIGHTeNINE=1E14EdLOGOGRAM NYAJdCIRCLED CA=1E290aTOTO LETTER PAcBAcTAcDAcKAcGAcMAcNAcNGAcSA",
  "cCHAcYAcWAcJAcHAcRAcLAcIcnBREATHYcIUcnBREATHYcUcEcnBREATHYcEOcnBREATHYcOcAEcnBREATHYcA",
  "bSIGN RISING TONE=1E2C0aWANCHO LETTER AAcAcBAcCAcDAcGAcYAcPHAcLAcNAcPAcTAcTHAcFAcSAcSHAcJAcZA",
  "cWAcVAcKAcOcAUcRAcMAcKHAcHAcEcIcNGAcUcLLHAcTSAcTRAcONGcAANGcANGcINGcONcENcAANcNYAcUENcYIH",
  "bTONE TUPcTUPNIcKOIcKOINIbDIGIT ZEROcONEcTWOcTHREEcFOURcFIVEcSIXcSEVENcEIGHTcNINE=1E2FF",
  "bNGUN SIGN=1E7E0aETHIOPIC SYLLABLE HHYAcHHYUcHHYIcHHYAAcHHYEEcHHYEcHHYO=1E7E8cGURAGE HHWA",
  "cHHWIcHHWEEcHHWE=1E7EDcGURAGE MWIdMWEE=1E7F0dQWIdQWEEdQWEdBWIdBWEEdKWIdKWEEdKWEdGWIdGWEEdGWE",
  "dFWIdFWEEdPWIdPWEE=1E800aMENDE KIKAKUI SYLLABLE M001 KIdM002 KAdM003 KUdM065 KEEdM095 KE",
  "dM076 KOOdM048 KOdM179 KUAdM004 WIdM005 WAdM006 WUdM126 WEEdM118 WEdM114 WOOdM045 WOdM194 WUI",
  "dM143 WEIdM061 WVIdM049 WVAdM139 WVEdM007 MINdM008 MANdM009 MUNdM059 MENdM094 MONdM154 MUAN",
  "dM189 MUENdM010 BIdM011 BAdM012 BUdM150 BEEdM097 BEdM103 BOOdM138 BOdM013 IdM014 AdM015 U",
  "dM163 EEdM100 EdM165 OOdM147 OdM137 EIdM131 INdnM135dM195 ANdM178 ENdM019 SIdM020 SAdM021 SU",
  "dM162 SEEdM116 SEdM136 SOOdM079 SOdM196 SIAdM025 LIdM026 LAdM027 LUdM084 LEEdM073 LEdM054 LOO",
  "dM153 LOdM110 LONG LEdM016 DIdM017 DAdM018 DUdM089 DEEdM180 DOOdM181 DOdM022 TIdM023 TA",
  "dM024 TUdM091 TEEdM055 TEdM104 TOOdM069 TOdM028 JIdM029 JAdM030 JUdM157 JEEdM113 JEdM160 JOO",
  "dM063 JOdnM175 LONGdM031 YIdM032 YAdM033 YUdM109 YEEdM080 YEdM141 YOOdM121 YOdM034 FIdM035 FA",
  "dM036 FUdM078 FEEdM075 FEdM133 FOOdM088 FOdM197 FUAdM101 FANdM037 NINdM038 NANdM039 NUN",
  "dM117 NENdM169 NONdM176 HIdM041 HAdM186 HUdM040 HEEdM096 HEdM042 HOOdM140 HOdM083 HEEI",
  "dM128 HOOUdM053 HINdM130 HANdM087 HUNdM052 HENdM193 HONdM046 HUANdM090 NGGIdM043 NGGA",
  "dM082 NGGUdM115 NGGEEdM146 NGGEdM156 NGGOOdM120 NGGOdM159 NGGAAdM127 NGGUAdM086 LONG NGGE",
  "dM106 LONG NGGOOdM183 LONG NGGOdM155 GIdM111 GAdM168 GUdM190 GEEdM166 GUEIdM167 GUAN",
  "dM184 NGENdM057 NGONdM177 NGUANdM068 PIdM099 PAdM050 PUdM081 PEEdM051 PEdM102 POOdM066 PO",
  "dM145 MBIdM062 MBAdM122 MBUdM047 MBEEdnM188dM072 MBEdM172 MBOOdM174 MBOdM187 MBUU",
  "dM161 LONG MBEdM105 LONG MBOOdM142 LONG MBOdM132 KPIdM092 KPAdM074 KPUdM044 KPEEdM108 KPE",
  "dM112 KPOOdM158 KPOdM124 GBIdM056 GBAdM148 GBUdM093 GBEEdM107 GBEdM071 GBOOdM070 GBOdM171 RA",
  "dM123 NDIdM129 NDAdM125 NDUdM191 NDEEdM119 NDEdM067 NDOOdM064 NDOdM152 NJAdM192 NJUdM149 NJEE",
  "dM134 NJOOdM182 VIdM185 VAdM151 VUdM173 VEEdM085 VEdM144 VOOdM077 VOdM164 NYINdM058 NYAN",
  "dM170 NYUNdM098 NYENdM060 NYON=1E8C7cDIGIT ONEdTWOdTHREEdFOURdFIVEdSIXdSEVENdEIGHTdNINE",
  "cCOMBINING NUMBER TEENSeTENSeHUNDREDSeTHOUSANDSenTENenHUNDREDeMILLIONS=1E900",
  "aADLAM CAPITAL LETTER ALIFdDAALIdLAAMdMIIMdBAdSINNYIIYHEdPEdBHEdRAdEdFAdIdOdDHAdYHEdWAWdNUN",
  "dKAFdYAdUdJIIMdCHIdHAdQAAFdGAdNYAdTUdNHAdVAdKHAdGBEdZALdKPOdSHAbSMALL LETTER ALIFdDAALIdLAAM",
  "dMIIMdBAdSINNYIIYHEdPEdBHEdRAdEdFAdIdOdDHAdYHEdWAWdNUNdKAFdYAdUdJIIMdCHIdHAdQAAFdGAdNYAdTU",
  "dNHAdVAdKHAdGBEdZALdKPOdSHAbALIF LENGTHENERbnVOWELbGEMINATION MARKbHAMZAbCONSONANT MODIFIER",
  "boGEMINATEbNUKTAbNASALIZATION MARK=1E950bDIGIT ZEROcONEcTWOcTHREEcFOURcFIVEcSIXcSEVENcEIGHT",
  "cNINE=1E95EbINITIAL EXCLAMATION MARKcnQUESTION=1EC71aINDIC SIYAQ NUMBER ONEdTWOdTHREEdFOUR",
  "dFIVEdSIXdSEVENdEIGHTdNINEdTENdTWENTYdTHIRTYdFORTYdFIFTYdSIXTYdSEVENTYdEIGHTYdNINETY",
  "dONE HUNDREDdnTWOdnTHREEdnFOURdnFIVEdnSIXdnSEVENdnEIGHTdnNINEdONE THOUSANDdnTWOdnTHREEdnFOUR",
  "dnFIVEdnSIXdnSEVENdnEIGHTdnNINEdnTENdnTWENTYdnTHIRTYdnFORTYdnFIFTYdnSIXTYdnSEVENTYdnEIGHTY",
  "dnNINETYdLAKHdLAKHANcLAKH MARKcNUMBER KARORdKARORANdPREFIXED ONEeTWOeTHREEeFOUReFIVEeSIX",
  "eSEVENeEIGHTeNINEcPLACEHOLDERcFRACTION ONE QUARTEReHALFdTHREE QUARTERScRUPEE MARK",
  "cNUMBER ALTERNATE ONEeTWOeTEN THOUSANDcALTERNATE LAKH MARK=1ED01aOTTOMAN SIYAQ NUMBER ONEdTWO",
  "dTHREEdFOURdFIVEdSIXdSEVENdEIGHTdNINEdTENdTWENTYdTHIRTYdFORTYdFIFTYdSIXTYdSEVENTYdEIGHTY",
  "dNINETYdONE HUNDREDdnTWOdnTHREEdnFOURdnFIVEdnSIXdnSEVENdnEIGHTdnNINEdONE THOUSANDdnTWOdnTHREE",
  "dnFOURdnFIVEdnSIXdnSEVENdnEIGHTdnNINEdnTENdnTWENTYdnTHIRTYdnFORTYdnFIFTYdnSIXTYdnSEVENTY",
  "dnEIGHTYdnNINETYcMARRATANcALTERNATE NUMBER TWOeTHREEeFOUReFIVEeSIXeSEVENeEIGHTeNINEeTEN",
  "eFOUR HUNDREDenSIXeTWO THOUSANDenTENcFRACTION ONE HALFeSIXTH=1EE00aARABIC MATHEMATICAL ALEF",
  "cBEHcJEEMcDAL=1EE05cWAWcZAINcHAHcTAHcYEHcKAFcLAMcMEEMcNOONcSEENcAINcFEHcSADcQAFcREHcSHEENcTEH",
  "cTHEHcKHAHcTHALcDADcZAHcGHAINcDOTLESS BEHdNOONdFEHdQAF=1EE21cINITIAL BEHdJEEM=1EE24dHEH=1EE27",
  "dHAH=1EE29dYEHdKAFdLAMdMEEMdNOONdSEENdAINdFEHdSADdQAF=1EE34dSHEENdTEHdTHEHdKHAH=1EE39dDAD",
  "=1EE3BdGHAIN=1EE42cTAILED JEEM=1EE47dHAH=1EE49dYEH=1EE4BdLAM=1EE4DdNOONdSEENdAIN=1EE51dSAD",
  "dQAF=1EE54dSHEEN=1EE57dKHAH=1EE59dDAD=1EE5BdGHAIN=1EE5DdDOTLESS NOON=1EE5FeQAF=1EE61",
  "cSTRETCHED BEHdJEEM=1EE64dHEH=1EE67dHAHdTAHdYEHdKAF=1EE6CdMEEMdNOONdSEENdAINdFEHdSADdQAF",
  "=1EE74dSHEENdTEHdTHEHdKHAH=1EE79dDADdZAHdGHAINdDOTLESS BEH=1EE7EeFEH=1EE80cLOOPED ALEFdBEH",
  "dJEEMdDALdHEHdWAWdZAINdHAHdTAHdYEH=1EE8BdLAMdMEEMdNOONdSEENdAINdFEHdSADdQAFdREHdSHEENdTEH",
  "dTHEHdKHAHdTHALdDADdZAHdGHAIN=1EEA1cDOUBLE-STRUCK BEHdJEEMdDAL=1EEA5dWAWdZAINdHAHdTAHdYEH",
  "=1EEABdLAMdMEEMdNOONdSEENdAINdFEHdSADdQAFdREHdSHEENdTEHdTHEHdKHAHdTHALdDADdZAHdGHAIN=1EEF0",
  "cOPERATOR MEEM WITH HAH WITH TATWEELdHAH WITH DAL"
]

end ApiRouter.Text.Name
