set_option autoImplicit false

/-! # Names of characters

Yi and other syllables, and presentation forms. -/

namespace ApiRouter.Text.Name

/-- The names of the characters from A000 to FFFD. -/
def forms : List String := [
  "=A000aYI SYLLABLE ITcIXcIcIPcIETcIEXcIEcIEPcATcAXcAcAPcUOXcUOcUOPcOTcOXcOcOPcEXcEcWUcBITcBIX",
  "cBIcBIPcBIETcBIEXcBIEcBIEPcBATcBAXcBAcBAPcBUOXcBUOcBUOPcBOTcBOXcBOcBOPcBEXcBEcBEPcBUTcBUXcBU",
  "cBUPcBURXcBURcBYTcBYXcBYcBYPcBYRXcBYRcPITcPIXcPIcPIPcPIEXcPIEcPIEPcPATcPAXcPAcPAPcPUOXcPUO",
  "cPUOPcPOTcPOXcPOcPOPcPUTcPUXcPUcPUPcPURXcPURcPYTcPYXcPYcPYPcPYRXcPYRcBBITcBBIXcBBIcBBIPcBBIET",
  "cBBIEXcBBIEcBBIEPcBBATcBBAXcBBAcBBAPcBBUOXcBBUOcBBUOPcBBOTcBBOXcBBOcBBOPcBBEXcBBEcBBEPcBBUT",
  "cBBUXcBBUcBBUPcBBURXcBBURcBBYTcBBYXcBBYcBBYPcNBITcNBIXcNBIcNBIPcNBIEXcNBIEcNBIEPcNBATcNBAX",
  "cNBAcNBAPcNBOTcNBOXcNBOcNBOPcNBUTcNBUXcNBUcNBUPcNBURXcNBURcNBYTcNBYXcNBYcNBYPcNBYRXcNBYRcHMIT",
  "cHMIXcHMIcHMIPcHMIEXcHMIEcHMIEPcHMATcHMAXcHMAcHMAPcHMUOXcHMUOcHMUOPcHMOTcHMOXcHMOcHMOPcHMUT",
  "cHMUXcHMUcHMUPcHMURXcHMURcHMYXcHMYcHMYPcHMYRXcHMYRcMITcMIXcMIcMIPcMIEXcMIEcMIEPcMATcMAXcMA",
  "cMAPcMUOTcMUOXcMUOcMUOPcMOTcMOXcMOcMOPcMEXcMEcMUTcMUXcMUcMUPcMURXcMURcMYTcMYXcMYcMYPcFITcFIX",
  "cFIcFIPcFATcFAXcFAcFAPcFOXcFOcFOPcFUTcFUXcFUcFUPcFURXcFURcFYTcFYXcFYcFYPcVITcVIXcVIcVIPcVIET",
  "cVIEXcVIEcVIEPcVATcVAXcVAcVAPcVOTcVOXcVOcVOPcVEXcVEPcVUTcVUXcVUcVUPcVURXcVURcVYTcVYXcVYcVYP",
  "cVYRXcVYRcDITcDIXcDIcDIPcDIEXcDIEcDIEPcDATcDAXcDAcDAPcDUOXcDUOcDOTcDOXcDOcDOPcDEXcDEcDEPcDUT",
  "cDUXcDUcDUPcDURXcDURcTITcTIXcTIcTIPcTIEXcTIEcTIEPcTATcTAXcTAcTAPcTUOTcTUOXcTUOcTUOPcTOTcTOX",
  "cTOcTOPcTEXcTEcTEPcTUTcTUXcTUcTUPcTURXcTURcDDITcDDIXcDDIcDDIPcDDIEXcDDIEcDDIEPcDDATcDDAXcDDA",
  "cDDAPcDDUOXcDDUOcDDUOPcDDOTcDDOXcDDOcDDOPcDDEXcDDEcDDEPcDDUTcDDUXcDDUcDDUPcDDURXcDDURcNDIT",
  "cNDIXcNDIcNDIPcNDIEXcNDIEcNDATcNDAXcNDAcNDAPcNDOTcNDOXcNDOcNDOPcNDEXcNDEcNDEPcNDUTcNDUXcNDU",
  "cNDUPcNDURXcNDURcHNITcHNIXcHNIcHNIPcHNIETcHNIEXcHNIEcHNIEPcHNATcHNAXcHNAcHNAPcHNUOXcHNUOcHNOT",
  "cHNOXcHNOPcHNEXcHNEcHNEPcHNUTcNITcNIXcNIcNIPcNIEXcNIEcNIEPcNAXcNAcNAPcNUOXcNUOcNUOPcNOTcNOX",
  "cNOcNOPcNEXcNEcNEPcNUTcNUXcNUcNUPcNURXcNURcHLITcHLIXcHLIcHLIPcHLIEXcHLIEcHLIEPcHLATcHLAXcHLA",
  "cHLAPcHLUOXcHLUOcHLUOPcHLOXcHLOcHLOPcHLEXcHLEcHLEPcHLUTcHLUXcHLUcHLUPcHLURXcHLURcHLYTcHLYX",
  "cHLYcHLYPcHLYRXcHLYRcLITcLIXcLIcLIPcLIETcLIEXcLIEcLIEPcLATcLAXcLAcLAPcLUOTcLUOXcLUOcLUOPcLOT",
  "cLOXcLOcLOPcLEXcLEcLEPcLUTcLUXcLUcLUPcLURXcLURcLYTcLYXcLYcLYPcLYRXcLYRcGITcGIXcGIcGIPcGIET",
  "cGIEXcGIEcGIEPcGATcGAXcGAcGAPcGUOTcGUOXcGUOcGUOPcGOTcGOXcGOcGOPcGETcGEXcGEcGEPcGUTcGUXcGUcGUP",
  "cGURXcGURcKITcKIXcKIcKIPcKIEXcKIEcKIEPcKATcKAXcKAcKAPcKUOXcKUOcKUOPcKOTcKOXcKOcKOPcKETcKEXcKE",
  "cKEPcKUTcKUXcKUcKUPcKURXcKURcGGITcGGIXcGGIcGGIEXcGGIEcGGIEPcGGATcGGAXcGGAcGGAPcGGUOTcGGUOX",
  "cGGUOcGGUOPcGGOTcGGOXcGGOcGGOPcGGETcGGEXcGGEcGGEPcGGUTcGGUXcGGUcGGUPcGGURXcGGURcMGIEXcMGIE",
  "cMGATcMGAXcMGAcMGAPcMGUOXcMGUOcMGUOPcMGOTcMGOXcMGOcMGOPcMGEXcMGEcMGEPcMGUTcMGUXcMGUcMGUP",
  "cMGURXcMGURcHXITcHXIXcHXIcHXIPcHXIETcHXIEXcHXIEcHXIEPcHXATcHXAXcHXAcHXAPcHXUOTcHXUOXcHXUO",
  "cHXUOPcHXOTcHXOXcHXOcHXOPcHXEXcHXEcHXEPcNGIEXcNGIEcNGIEPcNGATcNGAXcNGAcNGAPcNGUOTcNGUOXcNGUO",
  "cNGOTcNGOXcNGOcNGOPcNGEXcNGEcNGEPcHITcHIEXcHIEcHATcHAXcHAcHAPcHUOTcHUOXcHUOcHUOPcHOTcHOXcHO",
  "cHOPcHEXcHEcHEPcWATcWAXcWAcWAPcWUOXcWUOcWUOPcWOXcWOcWOPcWEXcWEcWEPcZITcZIXcZIcZIPcZIEXcZIE",
  "cZIEPcZATcZAXcZAcZAPcZUOXcZUOcZUOPcZOTcZOXcZOcZOPcZEXcZEcZEPcZUTcZUXcZUcZUPcZURXcZURcZYTcZYX",
  "cZYcZYPcZYRXcZYRcCITcCIXcCIcCIPcCIETcCIEXcCIEcCIEPcCATcCAXcCAcCAPcCUOXcCUOcCUOPcCOTcCOXcCO",
  "cCOPcCEXcCEcCEPcCUTcCUXcCUcCUPcCURXcCURcCYTcCYXcCYcCYPcCYRXcCYRcZZITcZZIXcZZIcZZIPcZZIET",
  "cZZIEXcZZIEcZZIEPcZZATcZZAXcZZAcZZAPcZZOXcZZOcZZOPcZZEXcZZEcZZEPcZZUXcZZUcZZUPcZZURXcZZUR",
  "cZZYTcZZYXcZZYcZZYPcZZYRXcZZYRcNZITcNZIXcNZIcNZIPcNZIEXcNZIEcNZIEPcNZATcNZAXcNZAcNZAPcNZUOX",
  "cNZUOcNZOXcNZOPcNZEXcNZEcNZUXcNZUcNZUPcNZURXcNZURcNZYTcNZYXcNZYcNZYPcNZYRXcNZYRcSITcSIXcSI",
  "cSIPcSIEXcSIEcSIEPcSATcSAXcSAcSAPcSUOXcSUOcSUOPcSOTcSOXcSOcSOPcSEXcSEcSEPcSUTcSUXcSUcSUPcSURX",
  "cSURcSYTcSYXcSYcSYPcSYRXcSYRcSSITcSSIXcSSIcSSIPcSSIEXcSSIEcSSIEPcSSATcSSAXcSSAcSSAPcSSOTcSSOX",
  "cSSOcSSOPcSSEXcSSEcSSEPcSSUTcSSUXcSSUcSSUPcSSYTcSSYXcSSYcSSYPcSSYRXcSSYRcZHATcZHAXcZHAcZHAP",
  "cZHUOXcZHUOcZHUOPcZHOTcZHOXcZHOcZHOPcZHETcZHEXcZHEcZHEPcZHUTcZHUXcZHUcZHUPcZHURXcZHURcZHYT",
  "cZHYXcZHYcZHYPcZHYRXcZHYRcCHATcCHAXcCHAcCHAPcCHUOTcCHUOXcCHUOcCHUOPcCHOTcCHOXcCHOcCHOPcCHET",
  "cCHEXcCHEcCHEPcCHUXcCHUcCHUPcCHURXcCHURcCHYTcCHYXcCHYcCHYPcCHYRXcCHYRcRRAXcRRAcRRUOXcRRUO",
  "cRROTcRROXcRROcRROPcRRETcRREXcRREcRREPcRRUTcRRUXcRRUcRRUPcRRURXcRRURcRRYTcRRYXcRRYcRRYPcRRYRX",
  "cRRYRcNRATcNRAXcNRAcNRAPcNROXcNROcNROPcNRETcNREXcNREcNREPcNRUTcNRUXcNRUcNRUPcNRURXcNRURcNRYT",
  "cNRYXcNRYcNRYPcNRYRXcNRYRcSHATcSHAXcSHAcSHAPcSHUOXcSHUOcSHUOPcSHOTcSHOXcSHOcSHOPcSHETcSHEX",
  "cSHEcSHEPcSHUTcSHUXcSHUcSHUPcSHURXcSHURcSHYTcSHYXcSHYcSHYPcSHYRXcSHYRcRATcRAXcRAcRAPcRUOXcRUO",
  "cRUOPcROTcROXcROcROPcREXcREcREPcRUTcRUXcRUcRUPcRURXcRURcRYTcRYXcRYcRYPcRYRXcRYRcJITcJIXcJI",
  "cJIPcJIETcJIEXcJIEcJIEPcJUOTcJUOXcJUOcJUOPcJOTcJOXcJOcJOPcJUTcJUXcJUcJUPcJURXcJURcJYTcJYXcJY",
  "cJYPcJYRXcJYRcQITcQIXcQIcQIPcQIETcQIEXcQIEcQIEPcQUOTcQUOXcQUOcQUOPcQOTcQOXcQOcQOPcQUTcQUXcQU",
  "cQUPcQURXcQURcQYTcQYXcQYcQYPcQYRXcQYRcJJITcJJIXcJJIcJJIPcJJIETcJJIEXcJJIEcJJIEPcJJUOXcJJUO",
  "cJJUOPcJJOTcJJOXcJJOcJJOPcJJUTcJJUXcJJUcJJUPcJJURXcJJURcJJYTcJJYXcJJYcJJYPcNJITcNJIXcNJIcNJIP",
  "cNJIETcNJIEXcNJIEcNJIEPcNJUOXcNJUOcNJOTcNJOXcNJOcNJOPcNJUXcNJUcNJUPcNJURXcNJURcNJYTcNJYXcNJY",
  "cNJYPcNJYRXcNJYRcNYITcNYIXcNYIcNYIPcNYIETcNYIEXcNYIEcNYIEPcNYUOXcNYUOcNYUOPcNYOTcNYOXcNYO",
  "cNYOPcNYUTcNYUXcNYUcNYUPcXITcXIXcXIcXIPcXIETcXIEXcXIEcXIEPcXUOXcXUOcXOTcXOXcXOcXOPcXYTcXYXcXY",
  "cXYPcXYRXcXYRcYITcYIXcYIcYIPcYIETcYIEXcYIEcYIEPcYUOTcYUOXcYUOcYUOPcYOTcYOXcYOcYOPcYUTcYUXcYU",
  "cYUPcYURXcYURcYYTcYYXcYYcYYPcYYRXcYYR=A490bRADICAL QOTcLIcKITcNYIPcCYPcSSIcGGOPcGEPcMIcHXIT",
  "cLYRcBBUTcMOPcYOcPUTcHXUOcTATcGAcZUPcCYTcDDURcBURcGGUOcNYOPcTUcOPcJJUTcZOTcPYTcHMOcYITcVUR",
  "cSHYcVEPcZAcJOcNZUPcJJYcGOTcJJIEcWOcDUcSHURcLIEcCYcCUOPcCIPcHXOPcSHATcZURcSHOPcCHEcZZIETcNBIE",
  "cKE=A4D0aLISU LETTER BAcPAcPHAcDAcTAcTHAcGAcKAcKHAcJAcCAcCHAcDZAcTSAcTSHAcMAcNAcLAcSAcZHAcZA",
  "cNGAcHAcXAcHHAcFAcWAcSHAcYAcGHAcAcAEcEcEUcIcOcUcUEcUHcOEcTONE MYA TIdNA POdMYA CYAeBOeNAeJEU",
  "bPUNCTUATION COMMAcFULL STOPaVAI SYLLABLE EEcEENcHEEcWEEcWEENcPEEcBHEEcBEEcMBEEcKPEEcMGBEE",
  "cGBEEcFEEcVEEcTEEcTHEEcDHEEcDHHEEcLEEcREEcDEEcNDEEcSEEcSHEEcZEEcZHEEcCEEcJEEcNJEEcYEEcKEE",
  "cNGGEEcGEEcMEEcNEEcNYEEcIcINcHIcHINcWIcWINcPIcBHIcBIcMBIcKPIcMGBIcGBIcFIcVIcTIcTHIcDHIcDHHI",
  "cLIcRIcDIcNDIcSIcSHIcZIcZHIcCIcJIcNJIcYIcKIcNGGIcGIcMIcNIcNYIcAcANcNGANcHAcHANcWAcWANcPAcBHA",
  "cBAcMBAcKPAcKPANcMGBAcGBAcFAcVAcTAcTHAcDHAcDHHAcLAcRAcDAcNDAcSAcSHAcZAcZHAcCAcJAcNJAcYAcKA",
  "cKANcNGGAcGAcMAcNAcNYAcOOcOONcHOOcWOOcWOONcPOOcBHOOcBOOcMBOOcKPOOcMGBOOcGBOOcFOOcVOOcTOOcTHOO",
  "cDHOOcDHHOOcLOOcROOcDOOcNDOOcSOOcSHOOcZOOcZHOOcCOOcJOOcNJOOcYOOcKOOcNGGOOcGOOcMOOcNOOcNYOOcU",
  "cUNcHUcHUNcWUcWUNcPUcBHUcBUcMBUcKPUcMGBUcGBUcFUcVUcTUcTHUcDHUcDHHUcLUcRUcDUcNDUcSUcSHUcZUcZHU",
  "cCUcJUcNJUcYUcKUcNGGUcGUcMUcNUcNYUcOcONcNGONcHOcHONcWOcWONcPOcBHOcBOcMBOcKPOcMGBOcGBOcGBONcFO",
  "cVOcTOcTHOcDHOcDHHOcLOcROcDOcNDOcSOcSHOcZOcZHOcCOcJOcNJOcYOcKOcNGGOcGOcMOcNOcNYOcEcENcNGENcHE",
  "cHENcWEcWENcPEcBHEcBEcMBEcKPEcKPENcMGBEcGBEcGBENcFEcVEcTEcTHEcDHEcDHHEcLEcREcDEcNDEcSEcSHEcZE",
  "cZHEcCEcJEcNJEcYEcKEcNGGEcNGGENcGEcGENcMEcNEcNYEcNGcLENGTHENERbCOMMAbFULL STOPbQUESTION MARK",
  "bSYLLABLE NDOLE FAdKAdSOObSYMBOL FEENGcKEENGcTINGcNIIcBANGcFAAcTAAcDANGcDOONGcKUNGcTONGcDO-O",
  "cJONGbDIGIT ZEROcONEcTWOcTHREEcFOURcFIVEcSIXcSEVENcEIGHTcNINEbSYLLABLE NDOLE MAdDO=A640",
  "aCYRILLIC CAPITAL LETTER ZEMLYAboSMALLbCAPITAL LETTER DZELOboSMALL",
  "bCAPITAL LETTER REVERSED DZEbpSMALLbCAPITAL LETTER IOTAboSMALLbCAPITAL LETTER DJERVboSMALL",
  "bCAPITAL LETTER MONOGRAPH UKbpSMALLbCAPITAL LETTER BROAD OMEGAbpSMALL",
  "bCAPITAL LETTER NEUTRAL YERbpSMALLbnCAPITAL LETTER YERU WITH BACKbrSMALL",
  "bCAPITAL LETTER IOTIFIED YATbpSMALLbCAPITAL LETTER REVERSED YUbpSMALL",
  "bCAPITAL LETTER IOTIFIED AbpSMALLbCAPITAL LETTER CLOSED LITTLE YUSbqSMALL",
  "bnCAPITAL LETTER BLENDEDbpSMALLbnCAPITAL LETTER IOTIFIED CLOSED LITTLEbrSMALL",
  "bCAPITAL LETTER YNboSMALLbCAPITAL LETTER REVERSED TSEbpSMALLbCAPITAL LETTER SOFT DEbpSMALL",
  "bCAPITAL LETTER SOFT ELbpSMALLbCAPITAL LETTER SOFT EMbpSMALLbCAPITAL LETTER MONOCULAR O",
  "bpSMALLbnCAPITAL LETTER BINOCULARbpSMALLbnCAPITAL LETTER DOUBLE MONOCULARbqSMALL",
  "bnLETTER MULTIOCULARaCOMBINING CYRILLIC VZMETcTEN MILLIONS SIGNcoHUNDREDcoTHOUSAND",
  "aSLAVONIC ASTERISKaCOMBINING CYRILLIC LETTER UKRAINIAN IEdIdYIdUdHARD SIGNdYERUdSOFT SIGN",
  "dOMEGAcKAVYKAcPAYEROKaCYRILLIC KAVYKAbPAYEROKbCAPITAL LETTER DWEboSMALLbCAPITAL LETTER DZWE",
  "boSMALLbCAPITAL LETTER ZHWEboSMALLbCAPITAL LETTER CCHEboSMALLbCAPITAL LETTER DZZEboSMALL",
  "bCAPITAL LETTER TE WITH MIDDLE HOOKbrSMALLbCAPITAL LETTER TWEboSMALLbCAPITAL LETTER TSWE",
  "boSMALLbCAPITAL LETTER TSSEboSMALLbCAPITAL LETTER TCHEboSMALLbCAPITAL LETTER HWEboSMALL",
  "bCAPITAL LETTER SHWEboSMALLbCAPITAL LETTER DOUBLE ObpSMALLbnCAPITAL LETTER CROSSEDbpSMALL",
  "aMODIFIER LETTER CYRILLIC HARD SIGNdnSOFTaCOMBINING CYRILLIC LETTER EFdIOTIFIED E",
  "aBAMUM LETTER AcKAcUcKUcEEcREEcTAEcOcNYIcIcLAcPAcRIIcRIEEcLEEEEcMEEEEcTAAcNDAAcNJAEMcMcSUUcMU",
  "cSHIIcSIcSHEUXcSEUXcKYEEcKETcNUAEcNUcNJUAEcYOQcSHUcYUQcYAcNSHAcKEUXcPEUXcNJEEcNTEEcPUEcWUE",
  "cPEEcFEEcRUcLUcMIcNIcREUXcRAEcKENcNGKWAENcNGGAcNGAcSHOcPUAEcFUcFOMcWAcNAcLIcPIcLOQcKOcMBEN",
  "cRENcMENcMAcTIcKIcMOcMBAAcTETcKPAcTENcNTUUcSAMBAcFAAMAEcKOVUUcKOGHOMbCOMBINING MARK KOQNDON",
  "dTUKWENTISbNJAEMLIbFULL STOPbCOLONbCOMMAbSEMICOLONbQUESTION MARK=A700",
  "aMODIFIER LETTER CHINESE TONE YIN PINGenYANGeYIN SHANGenYANGeYIN QUenYANGeYIN RUenYANG",
  "cEXTRA-HIGH DOTTED TONE BARcpHIGHcpMIDcpLOWcpEXTRA-LOWcoEXTRA-HIGH DOTTED LEFT-STEMcqHIGH",
  "cqMIDcqLOWcqEXTRA-LOWcpEXTRA-HIGHcpHIGHcpMIDcpLOWcpEXTRA-LOWcnDOT VERTICALdSLASH",
  "dHORIZONTAL BARcLOWER RIGHT CORNER ANGLEcRAISED UP ARROWdnDOWNdEXCLAMATION MARKdoINVERTED",
  "cpLOWcSTRESS AND HIGH TONEenLOWaLATIN CAPITAL LETTER EGYPTOLOGICAL ALEFbpSMALL",
  "bCAPITAL LETTER EGYPTOLOGICAL AINbpSMALLbCAPITAL LETTER HENGboSMALLbCAPITAL LETTER TZboSMALL",
  "bCAPITAL LETTER TRESILLOboSMALLbCAPITAL LETTER CUATRILLOboSMALL",
  "bCAPITAL LETTER CUATRILLO WITH COMMAbqSMALLbLETTER SMALL CAPITAL FeSbCAPITAL LETTER AAboSMALL",
  "bCAPITAL LETTER AOboSMALLbCAPITAL LETTER AUboSMALLbCAPITAL LETTER AVboSMALL",
  "bCAPITAL LETTER AV WITH HORIZONTAL BARbrSMALLbCAPITAL LETTER AYboSMALL",
  "bCAPITAL LETTER REVERSED C WITH DOTbrSMALLbCAPITAL LETTER K WITH STROKEbqSMALL",
  "bnCAPITAL LETTER K WITH DIAGONALbrSMALLboCAPITAL LETTER K WITH STROKE ANDbtSMALL",
  "bCAPITAL LETTER BROKEN LbpSMALLbCAPITAL LETTER L WITH HIGH STROKEbrSMALL",
  "bCAPITAL LETTER O WITH LONG STROKE OVERLAYbsSMALLbCAPITAL LETTER O WITH LOOPbqSMALL",
  "bCAPITAL LETTER OOboSMALLbCAPITAL LETTER P WITH STROKE THROUGH DESCENDERbsSMALL",
  "bCAPITAL LETTER P WITH FLOURISHbqSMALLbCAPITAL LETTER P WITH SQUIRREL TAILbrSMALL",
  "bCAPITAL LETTER Q WITH STROKE THROUGH DESCENDERbsSMALLbCAPITAL LETTER Q WITH DIAGONAL STROKE",
  "brSMALLbCAPITAL LETTER R ROTUNDAbpSMALLbnCAPITAL LETTER RUMbpSMALL",
  "bCAPITAL LETTER V WITH DIAGONAL STROKEbrSMALLbCAPITAL LETTER VYboSMALL",
  "bCAPITAL LETTER VISIGOTHIC ZbpSMALLbCAPITAL LETTER THORN WITH STROKEbqSMALL",
  "bCAPITAL LETTER THORN WITH STROKE THROUGH DESCENDERbsSMALLbCAPITAL LETTER VENDboSMALL",
  "bCAPITAL LETTER ETboSMALLbCAPITAL LETTER ISboSMALLbCAPITAL LETTER CONboSMALL",
  "aMODIFIER LETTER USaLATIN SMALL LETTER DUMdLUMdMUMdNUMdRUMbnLETTER SMALL CAPITAL",
  "bSMALL LETTER TUMdUMbCAPITAL LETTER INSULAR DbpSMALLbCAPITAL LETTER INSULAR FbpSMALL",
  "bCAPITAL LETTER INSULAR GdoTURNEDbqSMALLbCAPITAL LETTER TURNED LbpSMALL",
  "bCAPITAL LETTER INSULAR RbpSMALLbCAPITAL LETTER INSULAR SbpSMALLbCAPITAL LETTER INSULAR T",
  "bpSMALLaMODIFIER LETTER LOW CIRCUMFLEX ACCENTcCOLONcSHORT EQUALS SIGN",
  "aLATIN CAPITAL LETTER SALTILLOboSMALLbCAPITAL LETTER TURNED H",
  "bSMALL LETTER L WITH RETROFLEX HOOK AND BELTbLETTER SINOLOGICAL DOT",
  "bCAPITAL LETTER N WITH DESCENDERbqSMALLbCAPITAL LETTER C WITH BARbqSMALLfPALATAL HOOKdpH",
  "bCAPITAL LETTER B WITH FLOURISHbqSMALLbCAPITAL LETTER F WITH STROKEbqSMALL",
  "bCAPITAL LETTER VOLAPUK AEbpSMALLbCAPITAL LETTER VOLAPUK OEbpSMALLbCAPITAL LETTER VOLAPUK UE",
  "bpSMALLbCAPITAL LETTER G WITH OBLIQUE STROKEbrSMALLbpCAPITAL LETTER KbrSMALL",
  "bpCAPITAL LETTER NbrSMALLbpCAPITAL LETTER RbrSMALLbpCAPITAL LETTER SbrSMALL",
  "bCAPITAL LETTER H WITH HOOKdREVERSED OPEN EdSCRIPT GdL WITH BELTdSMALL CAPITAL I",
  "bLETTER SMALL CAPITAL QbCAPITAL LETTER TURNED KeTdJ WITH CROSSED-TAILdCHIdBETAboSMALL",
  "bCAPITAL LETTER OMEGAboSMALLbCAPITAL LETTER U WITH STROKEbqSMALLbCAPITAL LETTER GLOTTAL A",
  "bpSMALLbCAPITAL LETTER GLOTTAL IbpSMALLbCAPITAL LETTER GLOTTAL UbpSMALL",
  "bCAPITAL LETTER OLD POLISH ObqSMALLbCAPITAL LETTER ANGLICANA WbpSMALL",
  "bCAPITAL LETTER C WITH PALATAL HOOKdnS WITHdnZ WITH PALATALdD WITH SHORT STROKE OVERLAY",
  "bsSMALLbqCAPITAL LETTER SbsSMALL=A7D0bCAPITAL LETTER CLOSED INSULAR GbqSMALL=A7D3",
  "dDOUBLE THORN=A7D5eWYNNbCAPITAL LETTER MIDDLE SCOTS SbqSMALLbnCAPITAL LETTER SIGMOIDbpSMALL",
  "=A7F2aMODIFIER LETTER CAPITAL CdFdQaLATIN CAPITAL LETTER REVERSED HALF HbqSMALL",
  "bEPIGRAPHIC LETTER SIDEWAYS IaMODIFIER LETTER CAPITAL H WITH STROKEcSMALL LIGATURE OE",
  "aLATIN LETTER SMALL CAPITAL TURNED MbEPIGRAPHIC LETTER REVERSED FePdINVERTED MdI LONGA",
  "dARCHAIC MaSYLOTI NAGRI LETTER AdIcSIGN DVISVARAcLETTER UdEdOcSIGN HASANTAcLETTER KOdKHOdGO",
  "dGHOcSIGN ANUSVARAcLETTER COdCHOdJOdJHOdTTOdTTHOdDDOdDDHOdTOdTHOdDOdDHOdNOdPOdPHOdBOdBHOdMO",
  "dROdLOdRROdSOdHOcVOWEL SIGN AeIeUeEeOOcPOETRY MARK-1+3cSIGN ALTERNATE HASANTA=A830",
  "aNORTH INDIC FRACTION ONE QUARTEReHALFdTHREE QUARTERSdONE SIXTEENTHeEIGHTHdTHREE SIXTEENTHS",
  "cQUARTER MARKcnPLACEHOLDERcnRUPEEcnQUANTITY=A840aPHAGS-PA LETTER KAcKHAcGAcNGAcCAcCHAcJAcNYA",
  "cTAcTHAcDAcNAcPAcPHAcBAcMAcTSAcTSHAcDZAcWAcZHAcZAcSMALL AcYAcRAcLAcSHAcSAcHAcAcIcUcEcOcQAcXA",
  "cFAcGGAcEEbSUBJOINED LETTER WAdYAbLETTER TTAcTTHAcDDAcNNAcALTERNATE YAcVOICELESS SHA",
  "cVOICED HAcASPIRATED FAbSUBJOINED LETTER RAboSUPERFIXEDbLETTER CANDRABINDUbSINGLE HEAD MARK",
  "boDOUBLEbMARK SHADcnDOUBLE=A880aSAURASHTRA SIGN ANUSVARAcVISARGAbLETTER AcAAcIcIIcUcUU",
  "cVOCALIC RdRRdLdLLcEcEEcAIcOcOOcAUcKAcKHAcGAcGHAcNGAcCAcCHAcJAcJHAcNYAcTTAcTTHAcDDAcDDHAcNNA",
  "cTAcTHAcDAcDHAcNAcPAcPHAcBAcBHAcMAcYAcRAcLAcVAcSHAcSSAcSAcHAcLLAbCONSONANT SIGN HAARU",
  "bVOWEL SIGN AAdIdIIdUdUUdVOCALIC ReRReLeLLdEdEEdAIdOdOOdAUbSIGN VIRAMAcCANDRABINDU=A8CEbDANDA",
  "bnDOUBLEbDIGIT ZEROcONEcTWOcTHREEcFOURcFIVEcSIXcSEVENcEIGHTcNINE=A8E0",
  "aCOMBINING DEVANAGARI DIGIT ZEROdONEdTWOdTHREEdFOURdFIVEdSIXdSEVENdEIGHTdNINEcLETTER AdUdKA",
  "dNAdPAdRAdVIcSIGN AVAGRAHAaDEVANAGARI SIGN SPACING CANDRABINDUcCANDRABINDU VIRAMAcoDOUBLE",
  "cCANDRABINDU TWOdTHREEdAVAGRAHAcPUSHPIKAbGAP FILLERbCARETbHEADSTROKEbSIGN SIDDHAMbJAIN OM",
  "bLETTER AYbnVOWEL SIGNaKAYAH LI DIGIT ZEROdONEdTWOdTHREEdFOURdFIVEdSIXdSEVENdEIGHTdNINE",
  "cLETTER KAdKHAdGAdNGAdSAdSHAdZAdNYAdTAdHTAdNAdPAdPHAdMAdDAdBAdRAdYAdLAdWAdTHAdHAdVAdCAdAdOEdI",
  "dOOcVOWEL UEdEdUdEEdOcTONE PLOPHUdCALYAePLOPHUcSIGN CWIdSHYAaREJANG LETTER KAcGAcNGAcTAcDAcNA",
  "cPAcBAcMAcCAcJAcNYAcSAcRAcLAcYAcWAcHAcMBAcNGGAcNDAcNYJAcAbVOWEL SIGN IdUdEdAIdOdAUdEUdEA",
  "bCONSONANT SIGN NGdNdRdHbVIRAMA=A95FbSECTION MARKaHANGUL CHOSEONG TIKEUT-MIEUMcTIKEUT-PIEUP",
  "cTIKEUT-SIOScTIKEUT-CIEUCcRIEUL-KIYEOKcRIEUL-SSANGKIYEOKcRIEUL-TIKEUTcRIEUL-SSANGTIKEUT",
  "cRIEUL-MIEUMcRIEUL-PIEUPcRIEUL-SSANGPIEUPcRIEUL-KAPYEOUNPIEUPcRIEUL-SIOScRIEUL-CIEUC",
  "cRIEUL-KHIEUKHcMIEUM-KIYEOKcMIEUM-TIKEUTcMIEUM-SIOScPIEUP-SIOS-THIEUTHcPIEUP-KHIEUKH",
  "cPIEUP-HIEUHcSSANGSIOS-PIEUPcIEUNG-RIEULcIEUNG-HIEUHcSSANGCIEUC-HIEUHcSSANGTHIEUTH",
  "cPHIEUPH-HIEUHcHIEUH-SIOScSSANGYEORINHIEUH=A980aJAVANESE SIGN PANYANGGAcCECAKcLAYARcWIGNYAN",
  "bLETTER AcI KAWIdcIIcUcPA CEREKcNGA LELETeRASWADIcEcAIcOcKAdSASAKdMURDAcGAdMURDAcNGAcCAdMURDA",
  "cJAcNYA MURDAcJA MAHAPRANAcNYAcTTAdMAHAPRANAcDDAdMAHAPRANAcNA MURDAcTAdMURDAcDAdMAHAPRANAcNA",
  "cPAdMURDAcBAdMURDAcMAcYAcRAdAGUNGcLAcWAcSA MURDAdMAHAPRANAdcHAbSIGN CECAK TELU",
  "bVOWEL SIGN TARUNGdTOLONGdWULUeMELIKdSUKUeMENDUTdTALINGdDIRGA MUREdPEPETbCONSONANT SIGN KERET",
  "dPENGKALdCAKRAbPANGKONbLEFT RERENGGANbnRIGHTbPADA ANDAPcMADYAcLUHURcWINDUcPANGKATcLINGSA",
  "cLUNGSIcADEGdADEGcPISELEHboTURNED=A9CFbPANGRANGKEPbDIGIT ZEROcONEcTWOcTHREEcFOURcFIVEcSIX",
  "cSEVENcEIGHTcNINE=A9DEbPADA TIRTA TUMETEScISEN-ISENaMYANMAR LETTER SHAN GHAdCHAdJHAdNNAdBHA",
  "bSIGN SHAN SAWbMODIFIER LETTER SHAN REDUPLICATIONbLETTER TAI LAING NYAeFAeGAeGHAeJAeJHAeDDA",
  "eDDHAeNNAbTAI LAING DIGIT ZEROeONEeTWOeTHREEeFOUReFIVEeSIXeSEVENeEIGHTeNINE",
  "bLETTER TAI LAING LLAeDAeDHAeBAeBHA=AA00aCHAM LETTER AcIcUcEcAIcOcKAcKHAcGAcGHAcNGUEcNGAcCHA",
  "cCHHAcJAcJHAcNHUEcNHAcNHJAcTAcTHAcDAcDHAcNUEcNAcDDAcPAcPPAcPHAcBAcBHAcMUEcMAcBBAcYAcRAcLAcVA",
  "cSSAcSAcHAbVOWEL SIGN AAdIdIIdEIdUdOEdOdAIdAUdUEbCONSONANT SIGN YAdRAdLAdWA=AA40",
  "bLETTER FINAL KdGdNGboCONSONANT SIGNbLETTER FINAL CHdTdNdPdYdRdLdSSbCONSONANT SIGN FINAL MeH",
  "=AA50bDIGIT ZEROcONEcTWOcTHREEcFOURcFIVEcSIXcSEVENcEIGHTcNINE=AA5CbPUNCTUATION SPIRALcDANDA",
  "cnDOUBLEcnTRIPLEaMYANMAR LETTER KHAMTI GAdCAdCHAdJAdJHAdNYAdTTAdTTHAdDDAdDDHAdDHAdNAdSAdHA",
  "dHHAdFAbMODIFIER LETTER KHAMTI REDUPLICATIONbLETTER KHAMTI XAdZAdRAbLOGOGRAM KHAMTI OAYdQNdHM",
  "bSYMBOL AITON EXCLAMATIONdONEdTWObLETTER AITON RAbSIGN PAO KAREN TONEcTAI LAING TONE-2eTONE-5",
  "bLETTER SHWE PALAUNG CHAeSHAaTAI VIET LETTER LOW KOdnHIGHdLOW KHOdnHIGHdLOW KHHOdnHIGHdLOW GO",
  "dnHIGHdLOW NGOdnHIGHdLOW COdnHIGHdLOW CHOdnHIGHdLOW SOdnHIGHdLOW NYOdnHIGHdLOW DOdnHIGH",
  "dLOW TOdnHIGHdLOW THOdnHIGHdLOW NOdnHIGHdLOW BOdnHIGHdLOW POdnHIGHdLOW PHOdnHIGHdLOW FOdnHIGH",
  "dLOW MOdnHIGHdLOW YOdnHIGHdLOW ROdnHIGHdLOW LOdnHIGHdLOW VOdnHIGHdLOW HOdnHIGHdLOW OdnHIGH",
  "cMAI KANGcVOWEL AAdIdUEdUdEdOcMAI KHITcVOWEL IAdUEAdUAdAUEdAYdANdAMcTONE MAI EKeNUENGeTHO",
  "eSONG=AADBcSYMBOL KONdNUENGdSAMdHO HOIdKOI KOIaMEETEI MAYEK LETTER EdOdCHAdNYAdTTAdTTHAdDDA",
  "dDDHAdNNAdSHAdSSAcVOWEL SIGN IIeUUeAAIeAUeAAUcCHEIKHANcAHANG KHUDAMcANJI",
  "cSYLLABLE REPETITION MARKcoWORDcVOWEL SIGN VISARGAcVIRAMA=AB01aETHIOPIC SYLLABLE TTHUcTTHI",
  "cTTHAAcTTHEEcTTHEcTTHO=AB09cDDHUcDDHIcDDHAAcDDHEEcDDHEcDDHO=AB11cDZUcDZIcDZAAcDZEEcDZEcDZO",
  "=AB20cCCHHAcCCHHUcCCHHIcCCHHAAcCCHHEEcCCHHEcCCHHO=AB28cBBAcBBUcBBIcBBAAcBBEEcBBEcBBO=AB30",
  "aLATIN SMALL LETTER BARRED ALPHAdA REVERSED-SCHWAdBLACKLETTER EdnBARREDdE WITH FLOURISH",
  "dLENIS FdSCRIPT G WITH CROSSED-TAILdL WITH INVERTED LAZY SfDOUBLE MIDDLE TILDEfMIDDLE RING",
  "dM WITH CROSSED-TAILdoNdoENGdBLACKLETTER OfWITH STROKEdpOPENdINVERTED OE",
  "dTURNED OE WITH STROKEgnHORIZONTALeO OPEN-OgWITH STROKEdSTIRRUP R",
  "bLETTER SMALL CAPITAL R WITH RIGHT LEGbSMALL LETTER R WITHOUT HANDLEdDOUBLE R",
  "dR WITH CROSSED-TAILdpDOUBLEdSCRIPT RfWITH RINGdBASELINE ESHdU WITH SHORT RIGHT LEGeqBARdUI",
  "dnTURNEDdU WITH LEFT HOOKdCHIeWITH LOW RIGHT RINGgLEFT SERIFdX WITH LOW RIGHT RING",
  "fLONG LEFT LEGiAND LOW RIGHT RINGiWITH SERIFdY WITH SHORT RIGHT LEG",
  "aMODIFIER BREVE WITH INVERTED BREVEbLETTER SMALL HENGdL WITH INVERTED LAZY SfMIDDLE TILDE",
  "dU WITH LEFT HOOKaLATIN SMALL LETTER SAKHA YATdIOTIFIED EdOPEN OEdUOdINVERTED ALPHA",
  "aGREEK LETTER SMALL CAPITAL OMEGAaLATIN SMALL LETTER DZ DIGRAPH WITH RETROFLEX HOOKdqTS",
  "dTURNED R WITH MIDDLE TILDEaMODIFIER LETTER SMALL TURNED WcLEFT TACKcnRIGHT=AB70",
  "aCHEROKEE SMALL LETTER AdEdIdOdUdVdGAdKAdGEdGIdGOdGUdGVdHAdHEdHIdHOdHUdHVdLAdLEdLIdLOdLUdLV",
  "dMAdMEdMIdMOdMUdNAdHNAdNAHdNEdNIdNOdNUdNVdQUAdQUEdQUIdQUOdQUUdQUVdSAdSdSEdSIdSOdSUdSVdDAdTA",
  "dDEdTEdDIdTIdDOdDUdDVdDLAdTLAdTLEdTLIdTLOdTLUdTLVdTSAdTSEdTSIdTSOdTSUdTSVdWAdWEdWIdWOdWUdWV",
  "dYAaMEETEI MAYEK LETTER KOKdSAMdLAIdMITdPAdNAdCHILdTILdKHOUdNGOUdTHOUdWAIdYANGdHUKdUNdIdPHAM",
  "dATIYAdGOKdJHAMdRAIdBAdJILdDILdGHOUdDHOUdBHAMdKOK LONSUMdnLAIdnMITdnPAdnNAdnTILdnNGOUdnI",
  "cVOWEL SIGN ONAPeINAPeANAPeYENAPeSOUNAPeUNAPeCHEINAPeNUNGcCHEIKHEIcLUM IYEKcnAPUN=ABF0",
  "cDIGIT ZEROdONEdTWOdTHREEdFOURdFIVEdSIXdSEVENdEIGHTdNINE=D7B0aHANGUL JUNGSEONG O-YEOcO-O-I",
  "cYO-AcYO-AEcYO-EOcU-YEOcU-I-IcYU-AEcYU-OcEU-AcEU-EOcEU-EcEU-OcI-YA-OcI-YAEcI-YEOcI-YEcI-O-I",
  "cI-YOcI-YUcI-IcARAEA-AcARAEA-E=D7CBbJONGSEONG NIEUN-RIEULcNIEUN-CHIEUCHcSSANGTIKEUT",
  "cSSANGTIKEUT-PIEUPcTIKEUT-PIEUPcTIKEUT-SIOScTIKEUT-SIOS-KIYEOKcTIKEUT-CIEUCcTIKEUT-CHIEUCH",
  "cTIKEUT-THIEUTHcRIEUL-SSANGKIYEOKcRIEUL-KIYEOK-HIEUHcSSANGRIEUL-KHIEUKHcRIEUL-MIEUM-HIEUH",
  "cRIEUL-PIEUP-TIKEUTcRIEUL-PIEUP-PHIEUPHcRIEUL-YESIEUNGcRIEUL-YEORINHIEUH-HIEUHcKAPYEOUNRIEUL",
  "cMIEUM-NIEUNcMIEUM-SSANGNIEUNcSSANGMIEUMcMIEUM-PIEUP-SIOScMIEUM-CIEUCcPIEUP-TIKEUT",
  "cPIEUP-RIEUL-PHIEUPHcPIEUP-MIEUMcSSANGPIEUPcPIEUP-SIOS-TIKEUTcPIEUP-CIEUCcPIEUP-CHIEUCH",
  "cSIOS-MIEUMcSIOS-KAPYEOUNPIEUPcSSANGSIOS-KIYEOKcSSANGSIOS-TIKEUTcSIOS-PANSIOScSIOS-CIEUC",
  "cSIOS-CHIEUCHcSIOS-THIEUTHcSIOS-HIEUHcPANSIOS-PIEUPcPANSIOS-KAPYEOUNPIEUPcYESIEUNG-MIEUM",
  "cYESIEUNG-HIEUHcCIEUC-PIEUPcCIEUC-SSANGPIEUPcSSANGCIEUCcPHIEUPH-SIOScPHIEUPH-THIEUTH=FB00",
  "aLATIN SMALL LIGATURE FFdFIdFLdFFIdFFLdLONG S TdST=FB13aARMENIAN SMALL LIGATURE MEN NOWeECH",
  "eINIdVEW NOWdMEN XEH=FB1DaHEBREW LETTER YOD WITH HIRIQbPOINT JUDEO-SPANISH VARIKA",
  "bLIGATURE YIDDISH YOD YOD PATAHbLETTER ALTERNATIVE AYINcWIDE ALEFdDALETdHEdKAFdLAMED",
  "dFINAL MEMdRESHdTAVcALTERNATIVE PLUS SIGNcSHIN WITH SHIN DOTenSINenDAGESH AND SHINgnSIN",
  "cALEF WITH PATAHeQAMATSeMAPIQcBET WITH DAGESHcoGIMELcoDALETcHE WITH MAPIQcVAV WITH DAGESH",
  "coZAYIN=FB38coTETcoYODcoFINAL KAFcpcoLAMED=FB3EcoMEM=FB40coNUNcoSAMEKH=FB43coFINAL PEcp=FB46",
  "coTSADIcoQOFcoRESHcoSHINcoTAVcVAV WITH HOLAMcBET WITH RAFEcoKAFcoPEbLIGATURE ALEF LAMED",
  "aARABIC LETTER ALEF WASLA ISOLATED FORMenFINALcnBEEH ISOLATEDdnFINALdnINITIALdnMEDIAL",
  "cnPEH ISOLATEDdnFINALdnINITIALdnMEDIALcnBEHEH ISOLATEDdnFINALdnINITIALdnMEDIAL",
  "cnTTEHEH ISOLATEDdnFINALdnINITIALdnMEDIALcnTEHEH ISOLATEDdnFINALdnINITIALdnMEDIAL",
  "cnTTEH ISOLATEDdnFINALdnINITIALdnMEDIALcnVEH ISOLATEDdnFINALdnINITIALdnMEDIALcnPEHEH ISOLATED",
  "dnFINALdnINITIALdnMEDIALcnDYEH ISOLATEDdnFINALdnINITIALdnMEDIALcnNYEH ISOLATEDdnFINAL",
  "dnINITIALdnMEDIALcnTCHEH ISOLATEDdnFINALdnINITIALdnMEDIALcnTCHEHEH ISOLATEDdnFINALdnINITIAL",
  "dnMEDIALcnDDAHAL ISOLATEDdnFINALcnDAHAL ISOLATEDdnFINALcnDUL ISOLATEDdnFINALcnDDAL ISOLATED",
  "dnFINALcnJEH ISOLATEDdnFINALcnRREH ISOLATEDdnFINALcnKEHEH ISOLATEDdnFINALdnINITIALdnMEDIAL",
  "cnGAF ISOLATEDdnFINALdnINITIALdnMEDIALcnGUEH ISOLATEDdnFINALdnINITIALdnMEDIALcnNGOEH ISOLATED",
  "dnFINALdnINITIALdnMEDIALcnNOON GHUNNA ISOLATEDenFINALcnRNOON ISOLATEDdnFINALdnINITIALdnMEDIAL",
  "cnHEH WITH YEH ABOVE ISOLATEDgnFINALdnGOAL ISOLATEDenFINALenINITIALenMEDIAL",
  "dnDOACHASHMEE ISOLATEDenFINALenINITIALenMEDIALcnYEH BARREE ISOLATEDenFINAL",
  "enWITH HAMZA ABOVE ISOLATEDhnFINALbSYMBOL DOT ABOVEdBELOWcTWO DOTS ABOVEeBELOW",
  "cTHREE DOTS ABOVEeBELOWePOINTING DOWNWARDS ABOVEgBELOWcFOUR DOTS ABOVEeBELOW",
  "cnDOUBLE VERTICAL BARcTWO DOTS VERTICALLY ABOVEfBELOWcRINGcSMALL TAH ABOVEeBELOWcWASLA ABOVE",
  "=FBD3bLETTER NG ISOLATED FORMdnFINALdnINITIALdnMEDIALcnU ISOLATEDdnFINALcnOE ISOLATEDdnFINAL",
  "cnYU ISOLATEDdnFINALcnU WITH HAMZA ABOVE ISOLATEDcoVEdnFINALcnKIRGHIZ OE ISOLATEDenFINAL",
  "dnYU ISOLATEDenFINALcnE ISOLATEDdnFINALdnINITIALdnMEDIAL",
  "cnUIGHUR KAZAKH KIRGHIZ ALEF MAKSURA INITIALhnMEDIAL",
  "bnLIGATURE YEH WITH HAMZA ABOVE WITH ALEF ISOLATEDinFINALhnAE ISOLATEDinFINALhnWAW ISOLATED",
  "inFINALhnU ISOLATEDinFINALhnOE ISOLATEDinFINALhnYU ISOLATEDinFINALhnE ISOLATEDinFINAL",
  "inINITIALcnUIGHUR KIRGHIZ YEH WITH HAMZA ABOVE WITH ALEF MAKSURA ISOLATEDlnFINALlnINITIAL",
  "bnLETTER FARSI YEH ISOLATEDenFINALenINITIALenMEDIAL",
  "bnLIGATURE YEH WITH HAMZA ABOVE WITH JEEM ISOLATEDhoHAHhoMEEMhoALEF MAKSURAhoYEH",
  "coBEH WITH JEEMeoHAHeoKHAHeoMEEMeoALEF MAKSURAeoYEHcoTEH WITH JEEMeoHAHeoKHAHeoMEEM",
  "eoALEF MAKSURAeoYEHcoTHEH WITH JEEMeoMEEMeoALEF MAKSURAeoYEHcoJEEM WITH HAHeoMEEM",
  "coHAH WITH JEEMeoMEEMcoKHAH WITH JEEMeoHAHeoMEEMcoSEEN WITH JEEMeoHAHeoKHAHeoMEEM",
  "coSAD WITH HAHeoMEEMcoDAD WITH JEEMeoHAHeoKHAHeoMEEMcoTAH WITH HAHeoMEEMcqZAHcoAIN WITH JEEM",
  "eoMEEMcoGHAIN WITH JEEMeoMEEMcoFEH WITH JEEMeoHAHeoKHAHeoMEEMeoALEF MAKSURAeoYEH",
  "coQAF WITH HAHeoMEEMeoALEF MAKSURAeoYEHcoKAF WITH ALEFeoJEEMeoHAHeoKHAHeoLAMeoMEEM",
  "eoALEF MAKSURAeoYEHcoLAM WITH JEEMeoHAHeoKHAHeoMEEMeoALEF MAKSURAeoYEHcoMEEM WITH JEEMeoHAH",
  "eoKHAHeoMEEMeoALEF MAKSURAeoYEHcoNOON WITH JEEMeoHAHeoKHAHeoMEEMeoALEF MAKSURAeoYEH",
  "coHEH WITH JEEMeoMEEMeoALEF MAKSURAeoYEHcoYEH WITH JEEMeoHAHeoKHAHeoMEEMeoALEF MAKSURAeoYEH",
  "coTHAL WITH SUPERSCRIPT ALEFcrREHcrALEF MAKSURAcoSHADDA WITH DAMMATANeoKASRATANeoFATHAeoDAMMA",
  "eoKASRAeoSUPERSCRIPT ALEFcnYEH WITH HAMZA ABOVE WITH REH FINALhoZAINhoMEEMhoNOON",
  "hoALEF MAKSURAhoYEHcoBEH WITH REHeoZAINeoMEEMeoNOONeoALEF MAKSURAeoYEHcoTEH WITH REHeoZAIN",
  "eoMEEMeoNOONeoALEF MAKSURAeoYEHcoTHEH WITH REHeoZAINeoMEEMeoNOONeoALEF MAKSURAeoYEH",
  "coFEH WITH ALEF MAKSURAeoYEHcoQAF WITH ALEF MAKSURAeoYEHcoKAF WITH ALEFeoLAMeoMEEM",
  "eoALEF MAKSURAeoYEHcoLAM WITH MEEMeoALEF MAKSURAeoYEHcoMEEM WITH ALEFeoMEEMcoNOON WITH REH",
  "eoZAINeoMEEMeoNOONeoALEF MAKSURAeoYEHcoALEF MAKSURA WITH SUPERSCRIPT ALEFcoYEH WITH REHeoZAIN",
  "eoMEEMeoNOONeoALEF MAKSURAeoYEHenHAMZA ABOVE WITH JEEM INITIALhoHAHhoKHAHhoMEEMhoHEH",
  "coBEH WITH JEEMeoHAHeoKHAHeoMEEMeoHEHcoTEH WITH JEEMeoHAHeoKHAHeoMEEMeoHEHcoTHEH WITH MEEM",
  "coJEEM WITH HAHeoMEEMcoHAH WITH JEEMeoMEEMcoKHAH WITH JEEMeoMEEMcoSEEN WITH JEEMeoHAHeoKHAH",
  "eoMEEMcoSAD WITH HAHeoKHAHeoMEEMcoDAD WITH JEEMeoHAHeoKHAHeoMEEMcoTAH WITH HAHcoZAH WITH MEEM",
  "coAIN WITH JEEMeoMEEMcoGHAIN WITH JEEMeoMEEMcoFEH WITH JEEMeoHAHeoKHAHeoMEEMcoQAF WITH HAH",
  "eoMEEMcoKAF WITH JEEMeoHAHeoKHAHeoLAMeoMEEMcoLAM WITH JEEMeoHAHeoKHAHeoMEEMeoHEH",
  "coMEEM WITH JEEMeoHAHeoKHAHeoMEEMcoNOON WITH JEEMeoHAHeoKHAHeoMEEMeoHEHcoHEH WITH JEEMeoMEEM",
  "eoSUPERSCRIPT ALEFcoYEH WITH JEEMeoHAHeoKHAHeoMEEMeoHEHenHAMZA ABOVE WITH MEEM MEDIALhoHEH",
  "coBEH WITH MEEMeoHEHcoTEH WITH MEEMeoHEHcoTHEH WITH MEEMeoHEHcoSEEN WITH MEEMeoHEH",
  "coSHEEN WITH MEEMeoHEHcoKAF WITH LAMeoMEEMcqLAMcqNOONeoHEHcoYEH WITH MEEMeoHEH",
  "coSHADDA WITH FATHAeoDAMMAeoKASRAcnTAH WITH ALEF MAKSURA ISOLATEDeoYEHcoAIN WITH ALEF MAKSURA",
  "eoYEHcoGHAIN WITH ALEF MAKSURAeoYEHcoSEEN WITH ALEF MAKSURAeoYEHcoSHEEN WITH ALEF MAKSURA",
  "eoYEHcoHAH WITH ALEF MAKSURAeoYEHcoJEEM WITH ALEF MAKSURAeoYEHcoKHAH WITH ALEF MAKSURAeoYEH",
  "coSAD WITH ALEF MAKSURAeoYEHcoDAD WITH ALEF MAKSURAeoYEHcoSHEEN WITH JEEMeoHAHeoKHAHeoMEEM",
  "eoREHcqSEENcqSADcqDADcnTAH WITH ALEF MAKSURA FINALeoYEHcoAIN WITH ALEF MAKSURAeoYEH",
  "coGHAIN WITH ALEF MAKSURAeoYEHcoSEEN WITH ALEF MAKSURAeoYEHcoSHEEN WITH ALEF MAKSURAeoYEH",
  "coHAH WITH ALEF MAKSURAeoYEHcoJEEM WITH ALEF MAKSURAeoYEHcoKHAH WITH ALEF MAKSURAeoYEH",
  "coSAD WITH ALEF MAKSURAeoYEHcoDAD WITH ALEF MAKSURAeoYEHcoSHEEN WITH JEEMeoHAHeoKHAHeoMEEM",
  "eoREHcqSEENcqSADcqDADcnSHEEN WITH JEEM INITIALeoHAHeoKHAHeoMEEMcoSEEN WITH HEHcqSHEEN",
  "coTAH WITH MEEMcnSEEN WITH JEEM MEDIALeoHAHeoKHAHcoSHEEN WITH JEEMeoHAHeoKHAHcoTAH WITH MEEM",
  "cqZAHcnALEF WITH FATHATAN FINALfnISOLATEDaORNATE LEFT PARENTHESISbnRIGHT",
  "aARABIC LIGATURE RAHIMAHU ALLAAHcRADI ALLAAHU ANHeANHAAeANHUMeANHUMAAeANHUNNA",
  "cSALLALLAAHU ALAYHI WA-AALIHcALAYHI AS-SALAAMcnALAYHIMcnALAYHIMAA",
  "cALAYHI AS-SALAATU WAS-SALAAMcQUDDISA SIRRAHcSALLALLAHU ALAYHI WAAALIHEE WA-SALLAM",
  "cALAYHAA AS-SALAAMcTABAARAKA WA-TAAALAAcRAHIMAHUM ALLAAHcTEH WITH JEEM WITH MEEM INITIAL FORM",
  "enHAH WITH JEEM FINALhnINITIALgoMEEMeqKHAHeoMEEM WITH JEEMgoHAHgoKHAH",
  "cnJEEM WITH MEEM WITH HAH FINALhnINITIALcnHAH WITH MEEM WITH YEH FINALgoALEF MAKSURA",
  "cnSEEN WITH HAH WITH JEEM INITIALeoJEEM WITH HAHgnALEF MAKSURA FINALeoMEEM WITH HAHhnINITIAL",
  "goJEEMgnMEEM FINALhnINITIALcnSAD WITH HAH WITH HAH FINALhnINITIALenMEEM WITH MEEM FINAL",
  "cqSHEEN WITH HAHhnINITIALenJEEM WITH YEH FINALeoMEEM WITH KHAHhnINITIALgnMEEM FINALhnINITIAL",
  "cnDAD WITH HAH WITH ALEF MAKSURA FINALeoKHAH WITH MEEMhnINITIALcnTAH WITH MEEM WITH HAH FINAL",
  "hnINITIALgoMEEMgnYEH FINALcoAIN WITH JEEM WITH MEEMeqMEEMhnINITIALgnALEF MAKSURA FINAL",
  "coGHAIN WITH MEEM WITH MEEMgoYEHgoALEF MAKSURAcoFEH WITH KHAH WITH MEEMhnINITIAL",
  "cnQAF WITH MEEM WITH HAH FINALgoMEEMcqLAM WITH HAHgoYEHgoALEF MAKSURAenJEEM WITH JEEM INITIAL",
  "hnFINALeoKHAH WITH MEEMhnINITIALenMEEM WITH HAH FINALhnINITIALcoMEEM WITH HAH WITH JEEMgoMEEM",
  "gnYEH FINALenJEEM WITH HAH INITIALgoMEEMeoKHAH WITH JEEMgoMEEM=FD92eoJEEM WITH KHAH",
  "coHEH WITH MEEM WITH JEEMgoMEEMcqNOON WITH HAHgnALEF MAKSURA FINALeoJEEM WITH MEEMhnINITIAL",
  "gnALEF MAKSURA FINALeoMEEM WITH YEHgoALEF MAKSURAcoYEH WITH MEEM WITH MEEMhnINITIAL",
  "cnBEH WITH KHAH WITH YEH FINALcqTEH WITH JEEMgoALEF MAKSURAeoKHAH WITH YEHgoALEF MAKSURA",
  "eoMEEM WITH YEHgoALEF MAKSURAcoJEEM WITH MEEM WITH YEHeoHAH WITH ALEF MAKSURAerMEEM",
  "crSEEN WITH KHAHcoSAD WITH HAH WITH YEHcsSHEENcsDADcqLAM WITH JEEMeqMEEMcqYEH WITH HAHeqJEEM",
  "eqMEEMcsMEEMcsQAFcqNOON WITH HAHcnQAF WITH MEEM WITH HAH INITIALcoLAM WITH HAH WITH MEEM",
  "cnAIN WITH MEEM WITH YEH FINALcsKAFcnNOON WITH JEEM WITH HAH INITIAL",
  "cnMEEM WITH KHAH WITH YEH FINALcnLAM WITH JEEM WITH MEEM INITIAL",
  "cnKAF WITH MEEM WITH MEEM FINALcqLAM WITH JEEMcoNOON WITH JEEM WITH HAH",
  "coJEEM WITH HAH WITH YEHcqHAH WITH JEEMcsMEEMcqFEH WITH MEEMcqBEH WITH HAH",
  "cnKAF WITH MEEM WITH MEEM INITIALcqAIN WITH JEEMcqSAD WITH MEEM",
  "cnSEEN WITH KHAH WITH YEH FINALcqNOON WITH JEEM=FDCFcSALAAMUHU ALAYNAA=FDF0",
  "cSALLA USED AS KORANIC STOP SIGN ISOLATED FORMctQALAcoALLAHcoAKBARcoMOHAMMADcoSALAMcoRASOUL",
  "coALAYHEcoWASALLAMcoSALLAcSALLALLAHOU ALAYHE WASALLAMcJALLAJALALOUHOUaRIAL SIGN",
  "aARABIC LIGATURE BISMILLAH AR-RAHMAN AR-RAHEEMcSUBHAANAHU WA TAAALAAcAZZA WA JALL",
  "aVARIATION SELECTOR-1+15aPRESENTATION FORM FOR VERTICAL COMMAenIDEOGRAPHICfFULL STOPeCOLON",
  "eSEMICOLONeEXCLAMATION MARKenQUESTIONeLEFT WHITE LENTICULAR BRACKET",
  "eRIGHT WHITE LENTICULAR BRAKCETeHORIZONTAL ELLIPSIS=FE20aCOMBINING LIGATURE LEFT HALFcnRIGHT",
  "bnDOUBLE TILDE LEFTdnRIGHTbnMACRON LEFTcnRIGHTbCONJOINING MACRONbLIGATURE LEFT HALF BELOW",
  "coRIGHTboTILDE LEFTcoRIGHTboMACRON LEFTcoRIGHTbnCONJOINING MACRONbCYRILLIC TITLO LEFT HALF",
  "dnRIGHTaPRESENTATION FORM FOR VERTICAL TWO DOT LEADEReEM DASHenENeLOW LINEeoWAVY",
  "eLEFT PARENTHESISenRIGHTeLEFT CURLY BRACKETeoRIGHTenLEFT TORTOISE SHELLepRIGHT",
  "enLEFT BLACK LENTICULARepRIGHTenLEFT DOUBLE ANGLEepRIGHTeoLEFTeoRIGHTenLEFT CORNEReoRIGHT",
  "eoLEFT WHITEepRIGHTaSESAME DOTaoWHITEaPRESENTATION FORM FOR VERTICAL LEFT SQUARE BRACKET",
  "eoRIGHTaDASHED OVERLINEanCENTRELINEanWAVYaoDOUBLEaDASHED LOW LINEaoCENTRELINEaoWAVY",
  "aSMALL COMMAbnIDEOGRAPHICbFULL STOP=FE54bSEMICOLONbCOLONbQUESTION MARKbnEXCLAMATIONbEM DASH",
  "bLEFT PARENTHESISbnRIGHTbLEFT CURLY BRACKETboRIGHTbnLEFT TORTOISE SHELLbpRIGHTbNUMBER SIGN",
  "bAMPERSANDbASTERISKbPLUS SIGNbHYPHEN-MINUSbLESS-THAN SIGNbnGREATER-THANbnEQUALS=FE68",
  "bREVERSE SOLIDUSbDOLLAR SIGNbnPERCENTbCOMMERCIAL AT=FE70aARABIC FATHATAN ISOLATED FORM",
  "bTATWEEL WITH FATHATAN ABOVEbDAMMATAN ISOLATED FORMbTAIL FRAGMENTbKASRATAN ISOLATED FORM=FE76",
  "boFATHAcnMEDIALbnDAMMA ISOLATEDcnMEDIALbnKASRA ISOLATEDcnMEDIALbnSHADDA ISOLATEDcnMEDIAL",
  "bnSUKUN ISOLATEDcnMEDIALbnLETTER HAMZA ISOLATEDcoALEF WITH MADDA ABOVEgnFINAL",
  "enHAMZA ABOVE ISOLATEDgnFINALcnWAW WITH HAMZA ABOVE ISOLATEDgnFINAL",
  "cnALEF WITH HAMZA BELOW ISOLATEDgnFINALcnYEH WITH HAMZA ABOVE ISOLATEDgnFINALgnINITIAL",
  "gnMEDIALcnALEF ISOLATEDdnFINALcnBEH ISOLATEDdnFINALdnINITIALdnMEDIALcnTEH MARBUTA ISOLATED",
  "enFINALdnISOLATEDdnFINALdnINITIALdnMEDIALcnTHEH ISOLATEDdnFINALdnINITIALdnMEDIAL",
  "cnJEEM ISOLATEDdnFINALdnINITIALdnMEDIALcnHAH ISOLATEDdnFINALdnINITIALdnMEDIALcnKHAH ISOLATED",
  "dnFINALdnINITIALdnMEDIALcnDAL ISOLATEDdnFINALcnTHAL ISOLATEDdnFINALcnREH ISOLATEDdnFINAL",
  "cnZAIN ISOLATEDdnFINALcnSEEN ISOLATEDdnFINALdnINITIALdnMEDIALcnSHEEN ISOLATEDdnFINALdnINITIAL",
  "dnMEDIALcnSAD ISOLATEDdnFINALdnINITIALdnMEDIALcnDAD ISOLATEDdnFINALdnINITIALdnMEDIAL",
  "cnTAH ISOLATEDdnFINALdnINITIALdnMEDIALcnZAH ISOLATEDdnFINALdnINITIALdnMEDIALcnAIN ISOLATED",
  "dnFINALdnINITIALdnMEDIALcnGHAIN ISOLATEDdnFINALdnINITIALdnMEDIALcnFEH ISOLATEDdnFINAL",
  "dnINITIALdnMEDIALcnQAF ISOLATEDdnFINALdnINITIALdnMEDIALcnKAF ISOLATEDdnFINALdnINITIALdnMEDIAL",
  "cnLAM ISOLATEDdnFINALdnINITIALdnMEDIALcnMEEM ISOLATEDdnFINALdnINITIALdnMEDIALcnNOON ISOLATED",
  "dnFINALdnINITIALdnMEDIALcnHEH ISOLATEDdnFINALdnINITIALdnMEDIALcnWAW ISOLATEDdnFINAL",
  "cnALEF MAKSURA ISOLATEDenFINALcnYEH ISOLATEDdnFINALdnINITIALdnMEDIAL",
  "bnLIGATURE LAM WITH ALEF WITH MADDA ABOVE ISOLATEDinFINALgnHAMZA ABOVE ISOLATEDinFINAL",
  "hnBELOW ISOLATEDinFINALfnISOLATEDfnFINAL=FEFFaZERO WIDTH NO-BREAK SPACE=FF01",
  "aFULLWIDTH EXCLAMATION MARKbnQUOTATIONbNUMBER SIGNbnDOLLARbnPERCENTbAMPERSANDbAPOSTROPHE",
  "bLEFT PARENTHESISbnRIGHTbASTERISKbPLUS SIGNbCOMMAbHYPHEN-MINUSbFULL STOPbSOLIDUSbDIGIT ZERO",
  "cONEcTWOcTHREEcFOURcFIVEcSIXcSEVENcEIGHTcNINEbCOLONbSEMICOLONbLESS-THAN SIGNbnEQUALS",
  "bnGREATER-THANbQUESTION MARKbCOMMERCIAL ATbLATIN CAPITAL LETTER AeBeCeDeEeFeGeHeIeJeKeLeMeNeO",
  "ePeQeReSeTeUeVeWeXeYeZbLEFT SQUARE BRACKETbREVERSE SOLIDUSbRIGHT SQUARE BRACKET",
  "bCIRCUMFLEX ACCENTbLOW LINEbGRAVE ACCENTbLATIN SMALL LETTER AeBeCeDeEeFeGeHeIeJeKeLeMeNeOePeQ",
  "eReSeTeUeVeWeXeYeZbLEFT CURLY BRACKETbVERTICAL LINEbRIGHT CURLY BRACKETbTILDE",
  "bLEFT WHITE PARENTHESISboRIGHTaHALFWIDTH IDEOGRAPHIC FULL STOPbLEFT CORNER BRACKETboRIGHT",
  "bIDEOGRAPHIC COMMAbKATAKANA MIDDLE DOTcLETTER WOdSMALL AeIeUeEeOeYAeYUeYOeTU",
  "bKATAKANA-HIRAGANA PROLONGED SOUND MARKbKATAKANA LETTER AdIdUdEdOdKAdKIdKUdKEdKOdSAdSIdSUdSE",
  "dSOdTAdTIdTUdTEdTOdNAdNIdNUdNEdNOdHAdHIdHUdHEdHOdMAdMIdMUdMEdMOdYAdYUdYOdRAdRIdRUdREdROdWAdN",
  "cVOICED SOUND MARKcoSEMI-VOICEDbHANGUL FILLERcLETTER KIYEOKdSSANGKIYEOKdKIYEOK-SIOSdNIEUN",
  "dNIEUN-CIEUCdNIEUN-HIEUHdTIKEUTdSSANGTIKEUTdRIEULdRIEUL-KIYEOKdRIEUL-MIEUMdRIEUL-PIEUP",
  "dRIEUL-SIOSdRIEUL-THIEUTHdRIEUL-PHIEUPHdRIEUL-HIEUHdMIEUMdPIEUPdSSANGPIEUPdPIEUP-SIOSdSIOS",
  "dSSANGSIOSdIEUNGdCIEUCdSSANGCIEUCdCHIEUCHdKHIEUKHdTHIEUTHdPHIEUPHdHIEUH=FFC2dAdAEdYAdYAEdEOdE",
  "=FFCAdYEOdYEdOdWAdWAEdOE=FFD2dYOdUdWEOdWEdWIdYU=FFDAdEUdYIdI=FFE0aFULLWIDTH CENT SIGNbnPOUND",
  "bnNOTbMACRONbBROKEN BARbYEN SIGNbnWON=FFE8aHALFWIDTH FORMS LIGHT VERTICALbLEFTWARDS ARROW",
  "bnUPWARDSbnRIGHTWARDSbnDOWNWARDSbBLACK SQUAREbWHITE CIRCLE=FFF9aINTERLINEAR ANNOTATION ANCHOR",
  "cSEPARATORcTERMINATORaOBJECT REPLACEMENT CHARACTERao"
]

end ApiRouter.Text.Name
