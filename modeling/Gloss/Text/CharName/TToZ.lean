/-! The names of characters that begin with a letter from T to Z, as pages. -/

namespace Gloss.Text.CharName

/-- The page of the letter T. -/
def pageT : List String :=
  ["T-REXbSHIRTaABcLE TENNIS PADDLE AND BALLbCObG AMPERSANDePOSTROPHEeSTERISKdCIRCUMFLEX ACCENTeO",
   "LONfMMAhERCIAL ATdDIGIT EIGHTjFIVEkOURjNINEjONEjSEVENkIXjTHREEkWOjZEROeOLLAR SIGNdEQUALS SIGN",
   "eXCLAMATION MARKdFULL STOPdGRAVE ACCENTfEATER-THAN SIGNdHYPHEN-MINUSdLATIN CAPITAL LETTER AyB",
   "yCyDyEyFyGyHyIyJyKyLyMyNyOyPyQyRySyTyUyVyWyXyYyZjSMALL LETTER AwBwCwDwEwFwGwHwIwJwKwLwMwNwOwP",
   "wQwRwSwTwUwVwWwXwYwZeEFT CURLY BRACKETiPARENTHESISiSQUARE BRACKETfSS-THAN SIGNeOW LINEdNUMBER",
   " SIGNdPERCENT SIGNeLUS SIGNdQUESTION MARKfOTATION MARKdREVERSE SOLIDUSeIGHT CURLY BRACKETjPAR",
   "ENTHESISjSQUARE BRACKETdSEMICOLONeOLIDUSePACEdTILDEdVERTICAL LINEcALOG LETTER ApRCHAIC RAoBAo",
   "DAoGAoHAoIoKAoLAoMAoNApGAoPAoRAoSAoTAoUoWAoYAhSIGN PAMUDPODmVIRAMAhVOWEL SIGN IsUcBANWA LETTE",
   "R ApBApDApGApIpKApLApMApNAqGApPApSApTApUpWApYAiVOWEL SIGN ItUbI LE LETTER AoIoUEnEoEoHnFAnHAn",
   "InKAoHAnLAnMAnNAoGAnOoOnPAoHAnQAnSAnTAoHAoONE-2s3s4s5s6oSApHAnUoEnVAnXAnYAdTHAM COMBINING CRY",
   "PTOGRAMMIC DOTkNSONANT SIGN BAxFINAL NGAxHIGH RATHA OR LOW PAxLA TANG LAIyOW PAxMAyEDIAL LAze",
   "RAxSAiHORA DIGIT EIGHTtFIVEuOURtNINEtONEtSEVENuIXtTHREEuWOtZEROiLETTER ApBApDApEEpGREAT SApHI",
   "GH CAvHAuFAuHAuKAvHAvXAuPAvHAuRATHAuSAvHAvSAuTAvHAuYApIqIpLArEqLAqOW CAuHAtFAtHAtKAuHAuXAtPAu",
   "HAtRATHAtSAtTAuHAtYAqUEpMApNAqGAqYApOOpRArNArTAqUEpUqUpWAiSIGN CAANGnDOKMAInHANGoOYnKAANrKUUo",
   "EOWoHUEN TONE-3y4y5s-LUE KARANnMAI KANGv LAIrSAMrYAMOKnRA HAAMoEVERSED ROTATED RANAnSAKOTpTKA",
   "ANuKUUpWANnTONE-1s2nWIANGsWAAKiTHAM DIGIT EIGHTtFIVEuOURtNINEtONEtSEVENuIXtTHREEuWOtZEROiVOWE",
   "L SIGN AuAuEuItEtIuItMAI SATtOuA ABOVEwBELOWuOuYtTALL AAuHAM AItUuEuUvEdVIET LETTER HIGH BOuC",
   "HOvOuDOuFOuGOuHOuKHHOwOvOuLOuMOuNGOvOvYOuOuPHOvOuROuSOuTHOvOuVOuYOpLOW BOtCHOuOtDOtFOtGOtHOtK",
   "HHOvOuOtLOtMOtNGOuOuYOtOtPHOuOtROtSOtTHOuOtVOtYOiMAI KANGnHITiSYMBOL HO HOIpKOI KOIrNpNUENGpS",
   "AMiTONE MAI EKrNUENGrSONGrTHOiVOWEL AApMpNpUEpYoEoIpAoOoUpApEqAbKEOUT BOXcRI ABBREVIATION SIG",
   "NfDIGIT EIGHTlFIVEmOURlNINElONElSEVENmIXlTHREEmWOlZEROfLETTER AnAnInRCHAIC KHAnUmBAnHAmCAnHAm",
   "DAnDAoHAnHAmEmGAnHAmHAmInImJAnHAmKAnHAmLAmMAmNAnGAnNAnYAmOmPAnHAmRAnRAmSAnHAmTAnHAnTAoHAmUnUm",
   "VAmYAfSIGN ANUSVARAkNUKTAkVIRAMAmSARGAfVOWEL SIGN AArIrUqEqIrIqOqUrUbLLY MARK FIVEkONEbMALEcI",
   "L AND ODD SIGNgS ABOVE SIGNgU LENGTH MARKfCREDIT SIGNgURRENT SIGNfDAY SIGNgEBIT SIGNgIGIT EIG",
   "HTlFIVEmOURlNINElONElSEVENmIXlTHREEmWOlZEROgRY CULTIVATION SIGNfFRACTION DOWNSCALING FACTOR K",
   "IIZHoONE EIGHTHxIETHsFIFTHtORTIETHsHALF-1x2sONE-HUNDRED-AND-SIXTIETHsQUARTERsSIXTEENTH-1zc2wY",
   "-FOURTHsTENTHtHIRTY-SECONDuREE-HUNDRED-AND-TWENTIETHtWENTIETHoTHREE EIGHTIETHSuQUARTERSuSIXTE",
   "ENTHSyY-FOURTHSuTWENTIETHSfIN POSSESSION SIGNfLAND SIGNgETTER AnAnInUmCAmEnEmHAmInImJAmKAmLAn",
   "LAoLAmMAmNAnGAnNAoNAnYAmOnOmPAmRAnRAmSAnHAnSAmTAnTAmUnUmVAmYAfMONTH SIGNfNUMBER ONE HUNDREDqT",
   "HOUSANDmSIGNmTENfOMfPUNCTUATION END OF TEXTfRUPEE SIGNfSALT PAN SIGNgIGN AAZHAAKKUlNUSVARAkCE",
   "VITUkKAACUlURUNImZHIkMUKKURUNImTHALIYAmUVUZHAKKUkNELkPAARAMmNAMmTHAKKUlONkUZHAKKUkVAKAIYARAAm",
   "RAAKANlELIlIRAMAmSARGAgPENT SIGNgTARTING FROM SIGNfTOTAL SIGNgRADITIONAL CREDIT SIGNrNUMBER S",
   "IGNfVOWEL SIGN AArIrUqErEqIrIqOrOqUrUfWET CULTIVATION SIGNfYEAR SIGNbNABATA TREEcGERINEdSA DI",
   "GIT EIGHTmFIVEnOURmNINEmONEmSEVENnIXmTHREEnWOmZEROgLETTER ACoQoWCpQpXpZoXoZnBAnCAoHAnDAoHAnEC",
   "oQoXoZnFAoINAL NGnGAoHAnHAoTApTAnICoQoXoZnKAoHAnLAoONG UEXnMAoCoQoXoZnNAoGAoHAoYAnOCoQoXoZnPA",
   "oHAnRAnSAoHApORT AWXtUEZnTAoHAoSAnUCoECpQpXpZoICpQpUCqQqXqZpXpZoQoXoZnVCoQoXoZnWAnXAnYAnZAdUT",
   " COMPONENT-001s2s3s4s5s6s7s8s9r10s1s2s3s4s5s6s7s8s9r20s1s2s3s4s5s6s7s8s9r30s1s2s3s4s5s6s7s8s9",
   "r40s1s2s3s4s5s6s7s8s9r50s1s2s3s4s5s6s7s8s9r60s1s2s3s4s5s6s7s8s9r70s1s2s3s4s5s6s7s8s9r80s1s2s3",
   "s4s5s6s7s8s9r90s1s2s3s4s5s6s7s8s9q100s1s2s3s4s5s6s7s8s9r10s1s2s3s4s5s6s7s8s9r20s1s2s3s4s5s6s7",
   "s8s9r30s1s2s3s4s5s6s7s8s9r40s1s2s3s4s5s6s7s8s9r50s1s2s3s4s5s6s7s8s9r60s1s2s3s4s5s6s7s8s9r70s1",
   "s2s3s4s5s6s7s8s9r80s1s2s3s4s5s6s7s8s9r90s1s2s3s4s5s6s7s8s9q200s1s2s3s4s5s6s7s8s9r10s1s2s3s4s5",
   "s6s7s8s9r20s1s2s3s4s5s6s7s8s9r30s1s2s3s4s5s6s7s8s9r40s1s2s3s4s5s6s7s8s9r50s1s2s3s4s5s6s7s8s9r",
   "60s1s2s3s4s5s6s7s8s9r70s1s2s3s4s5s6s7s8s9r80s1s2s3s4s5s6s7s8s9r90s1s2s3s4s5s6s7s8s9q300s1s2s3",
   "s4s5s6s7s8s9r10s1s2s3s4s5s6s7s8s9r20s1s2s3s4s5s6s7s8s9r30s1s2s3s4s5s6s7s8s9r40s1s2s3s4s5s6s7s",
   "8s9r50s1s2s3s4s5s6s7s8s9r60s1s2s3s4s5s6s7s8s9r70s1s2s3s4s5s6s7s8s9r80s1s2s3s4s5s6s7s8s9r90s1s",
   "2s3s4s5s6s7s8s9q400s1s2s3s4s5s6s7s8s9r10s1s2s3s4s5s6s7s8s9r20s1s2s3s4s5s6s7s8s9r30s1s2s3s4s5s",
   "6s7s8s9r40s1s2s3s4s5s6s7s8s9r50s1s2s3s4s5s6s7s8s9r60s1s2s3s4s5s6s7s8s9r70s1s2s3s4s5s6s7s8s9r8",
   "0s1s2s3s4s5s6s7s8s9r90s1s2s3s4s5s6s7s8s9q500s1s2s3s4s5s6s7s8s9r10s1s2s3s4s5s6s7s8s9r20s1s2s3s",
   "4s5s6s7s8s9r30s1s2s3s4s5s6s7s8s9r40s1s2s3s4s5s6s7s8s9r50s1s2s3s4s5s6s7s8s9r60s1s2s3s4s5s6s7s8",
   "s9r70s1s2s3s4s5s6s7s8s9r80s1s2s3s4s5s6s7s8s9r90s1s2s3s4s5s6s7s8s9q600s1s2s3s4s5s6s7s8s9r10s1s",
   "2s3s4s5s6s7s8s9r20s1s2s3s4s5s6s7s8s9r30s1s2s3s4s5s6s7s8s9r40s1s2s3s4s5s6s7s8s9r50s1s2s3s4s5s6",
   "s7s8s9r60s1s2s3s4s5s6s7s8s9r70s1s2s3s4s5s6s7s8s9r80s1s2s3s4s5s6s7s8s9r90s1s2s3s4s5s6s7s8s9q70",
   "0s1s2s3s4s5s6s7s8s9r10s1s2s3s4s5s6s7s8s9r20s1s2s3s4s5s6s7s8s9r30s1s2s3s4s5s6s7s8s9r40s1s2s3s4",
   "s5s6s7s8s9r50s1s2s3s4s5s6s7s8s9r60s1s2s3s4s5s6s7s8gITERATION MARKbPE CARTRIDGEeDRIVEbURUSbXIa",
   "EACUP WITHOUT HANDLEcPOTcR-OFF CALENDARdDROP-BARBED RIGHTWARDS ARROWiSPOKED ASTERISKbDDY BEAR",
   "bLEPHONE LOCATION SIGNjON TOP OF MODEMjRECEIVERr WITH PAGEmORDERjSIGNdSCOPEdVISIONcUGU AI LEN",
   "GTH MARKgDIGIT EIGHTmFIVEnOURmNINEmONEmSEVENnIXmTHREEnWOmZEROgFRACTION DIGIT ONE FOR EVEN POW",
   "ERS OF FOURzdODD POWERS OF FOURvTHREE FOR EVEN POWERS OF FOURzfODD POWERS OF FOURwWO FOR EVEN",
   " POWERS OF FOURzdODD POWERS OF FOURvZERO FOR ODD POWERS OF FOURgLENGTH MARKiTTER AoAoIoUnBAoH",
   "AnCAoHAnDAoDApHAoHAoZAnEoEnGAoHAnHAnIoInJAoHAnKAoHAnLAoLApLAnMAnNApKAARA POLLUoGAoNAoYAnOoOnP",
   "AoHAnRAoRApRAnSAoHAoSAnTAoHAoSAoTApHAnUoUnVAoOCALIC LwLvRwRnYAgSIGN ANUSVARAmVAGRAHAlCANDRABI",
   "NDUmOMBINING ANUSVARA ABOVEvCANDRABINDU ABOVElNUKTAlSIDDHAMlTUUMUlVIRAMAnSARGAgVOWEL SIGN AAs",
   "IsUrEsErIsIrOsOrUsUrVOCALIC LzaLzRzaRbNGE SIGNcNIS RACQUET AND BALLcTbST TUBEbTRAGRAM FOR ACC",
   "UMULATIONoDVANCEoGGRAVATIONoSCENTnBARRIERoOLD RESOLUTIONoRANCHING OUTnCENTREoHANGEoLOSED MOUT",
   "HsNESSrUREoOMPLETIONsIANCEpNSTANCYqTACTrENTIONrRARIETYnDARKENINGoECISIVENESSpFECTIVENESS OR D",
   "ISTORTIONpPARTUREoIFFICULTIESpMINISHMENTqMINGpVERGENCEoOUBToUTIESnEASEoMBELLISHMENToNCOUNTERS",
   "pDEAVOURpLARGEMENToTERNITYoXHAUSTIONnFAILUREoLIGHToOLLOWINGpSTERINGoULL CIRCLErNESSnGATHERING",
   "w INoOING TO MEEToREATNESSoUARDEDNESSnHARDNESSoOLDING BACKnINCREASEpNERnJOYnKEEPING SMALLoINS",
   "HIPnLABOURINGpW OR MODELoEGIONnMASSINGoEASUREoIREDnON THE VERGEoPPOSITIONnPACKINGpTTERNoENETR",
   "ATIONoURITYnREACHpLEASEpSIDENCErSTANCEqPONSEoITUALnSEVERANCEoINKINGoTOPPAGEqVEpRENGTHnUNITYnV",
   "ASTNESS OR WASTINGnWAITINGpTCHnYOUTHFULNESSaHAANA AABAAFILIhBAFILIgEBEFILIhEBEEFILIhYBEYFILIg",
   "IBIFILIgLETTER AINUoLIFUnBAAnCHAVIYANInDAADHUpVIYANIoHAALUnFAAFUnGAAFUoHAINUoNAVIYANInHAAoHAA",
   "nJAVIYANInKAAFUoHAAnLAAMUoHAVIYANInMEEMUnNAAoOONUnPAVIYANInQAAFUnRAAnSAADHUoEENUoHAVIYANIpEEN",
   "UnTAVIYANIoHAArLUoOoTAAnVAAVUnWAAVUnYAAnZAApVIYANIoOgOABOAFILIhBOFILIhOBOOFILIgSUKUNgUBUFILIc",
   "I CHARACTER ANGKHANKHUoBO BAIMAIoCHO CHANwGuINGuOEoDO CHADArDEKoFO FAtNqNGMANoHO HIPrNOKHUKoK",
   "HO KHAIuONuUATuWAIsRAKHANGrMUTpO KAIoLAKKHANGYAOpO CHULArLINGpUoMAI CHATTAWAsEKsHAN-AKATsTHOt",
   "RIrTAIKHUrYAMOKpO MAoNGO NGUpIKHAHITpO NENsUoO ANGoPAIYANNOIpHINTHUqO PHANuUNGsSAMPHAOpO PLAo",
   "RO RUApUoSARA AuAuEuI MAIMALAIzaUANuMtEtIuItOtUuEvEuUpO RUSIrSALAsOsUAoTHANTHAKHATqO NANGMONT",
   "HOsPHUTHAOsTHAHANvNuONGuUNGpO PATAKrTAOoWO WAENoYAMAKKANpO YAKsINGfURRENCY SYMBOL BAHTeDIGIT ",
   "EIGHTkFIVElOURkNINEkONEkSEVENlIXkTHREElWOkZERObERE DOES NOT EXISTfEXISTSeFOREdMODYNAMICfMETER",
   "bIN GREEK CROSSeSALTIREfPACEdKING FACEcRD PLACE MEDALbONG SANDALcUGHT BALLOONbREE BUTTON MOUS",
   "EfCONSECUTIVE EQUALS SIGNSfDIMENSIONAL ANGLEgOT PUNCTUATIONfLEFTWARDS ARROWSgINES CONVERGING ",
   "LEFTwRIGHTfNETWORKED COMPUTERSfPOINTED BLACK STARfRAYS ABOVEkBELOWkLEFTkRIGHTgIGHTWARDS ARROW",
   "SfSPEECH BUBBLESe-D BOTTOM-LIGHTED RIGHTWARDS ARROWHEADhLEFT-LIGHTED DOWNWARDS EQUILATERAL AR",
   "ROWHEADhRIGHT-LIGHTED UPWARDS EQUILATERAL ARROWHEADhTOP-LIGHTED LEFTWARDS EQUILATERAL ARROWHE",
   "ADtRIGHTWARDS ARROWHEADzeEQUILATERAL ARROWHEADfEM DASHfPER-EM SPACEbUMBS DOWN SIGNgUP SIGNcND",
   "ER CLOUD AND RAINgSTORMaIBETAN ASTROLOGICAL SIGN -KHYUD PAzSDONG TSHUGSzaGRA GCAN -CHAR RTAGS",
   "hCANTILLATION SIGN CANG TE-UzHEAVY BEATzLIGHT BEATzSBUB -CHALhDIGIT EIGHTnFIVEoOURnHALF EIGHT",
   "sFIVEtOURsNINEsONEsSEVENtIXsTHREEtWOsZEROnNINEnONEnSEVENoIXnTHREEoWOnZEROhKU RU KHAq BZHI MIG",
   " CANhLETTER -AoAoBApHAoCApHAoDApDAqHApHApZAqHAoFIXED-FORM RAoGApHAoHAoJAoKApHApKApSSAoLAoMAoN",
   "ApGApNApYAoPApHAoRApRAoSApHApSAoTApHApSAqHApTAqHAoWAoYAoZApHAiOGOTYPE SIGN CHAD RTAGSvLHAG RT",
   "AGShMARK ANG KHANG GYASyONmBKA- SHOG GI MGO RGYANwYIG MGOnSDUS RTAGSoKA- SHOG GI MGO RGYANpUR",
   " YIG MGOmCARET -DZUD RTAGS BZHI MIG CANzeME LONG CANsYIG MGO PHUR SHAD MAnHE MGOnLOSING BRDA ",
   "RNYING YIG MGO SGAB MAuYIG MGO SGAB MAmDELIMITER TSHEG BSTARmGTER TSHEGrYIG MGO -UM GTER TSHE",
   "G MAzdRNAM BCAD MAzTRUNCATED AnUG RTAGS GYASyONmHALANTAmINITIAL BRDA RNYING YIG MGO MDUN MAuY",
   "IG MGO MDUN MAoTERSYLLABIC TSHEGmLEADING MCHAN RTAGSmMNYAM YIG GI MGO RGYANmNGAS BZUNG NYI ZL",
   "AxSGOR RTAGSnYIS SHADrTSHEGw SHADmPALUTAmRGYA GRAM SHADnIN CHEN SPUNGS SHADmSBRUL SHADnHADmTR",
   "AILING MCHAN RTAGSnSA -PHRUoHEG SHADmYIG MGO TSHEG SHAD MAhSIGN GRU CAN RGYINGSqMED RGYINGSmI",
   "NVERTED MCHU CANmLCE TSA CANoI RTAGSmMAR TSHESnCHU CANmNYI ZLA NAA DAmRDEL DKAR GCIGxNYISxSUM",
   "wRDEL NAGrNAG GCIGwNYISwSUMvRDEL DKARnJES SU NGA ROnNAM BCADmSNA LDANmYANG RTAGSoR TSHESiUBJO",
   "INED LETTER -AyAyBAzHAyCAzHAyDAzDAzaHAzHAzZAzaHAyFIXED-FORM RAzjWAzjYAyGAzHAyHAyJAyKAzHAzSSAy",
   "LAyMAyNAzGAzNAzYAyPAzHAyRAySAzHAzSAyTAzHAzSAzaHAzTAzaHAyWAyYAyZAzHArSIGN INVERTED MCHU CANwLC",
   "E TSA CANwMCHU CANiYLLABLE OMjMBOL DRIL BUoNOR BUu BZHI -KHYILvGSUM -KHYILvNYIS -KHYILoPADMA ",
   "GDANpHUR PAoRDO RJEv RGYA GRAMhVOWEL SIGN AAsEtEsItIsOtOsREVERSED IzcIsUtUsVOCALIC LzbLzaRzbR",
   "bCKETbE OVER INFINITYbFINAGH CONSONANT JOINERiLETTER AHAGGAR YAZHqYER YAGHpBERBER ACADEMY YAH",
   "zgJpTAWELLEMET YAZqUAREG YAGHzNyHyKzHyNGyQyZHpYArArBsHrCHrDsDtHsHrFrGsHtHrHsHrJrKsHtHrLrMrNrP",
   "rQrRsRrSsHsSrTsHsTrVrWrYrZsHsZqErYqIqOqUiMODIFIER LETTER LABIALIZATION MARKiSEPARATOR MARKbGE",
   "Re FACEcHT TRIFOLIATE SNOWFLAKEbLDEe OPERATORn ABOVE LEFTWARDS ARROWuRIGHTWARDS ARROWoWITH DO",
   "T ABOVEtRISING DOTSfWITH DOT ABOVEoBELOWkRING ABOVEbMER CLOCKdS WITH LEFT HALF BLACKkRIGHT HA",
   "LF BLACKbNYd TWO DOTS OVER ONE DOT PUNCTUATIONbRED FACEcHUTA ABBREVIATION SIGNiNJIhDIGIT EIGH",
   "TnFIVEoOURnNINEnONEnSEVENoIXnTHREEoWOnZEROhGVANGhLETTER ApApIpUoBApHAoCApHAoDApDAqHApHAoEoGAp",
   "HAoHAoIpIoJApHAoKApHAoLAoMAoNApGApNApYAoOoPApHAoRAoSApHApSAoTApHApTAqHAoUpUoVApOCALIC LxLwRxR",
   "oYAhOMhSIGN ANUSVARAnVAGRAHAmCANDRABINDUmNUKTAmVIRAMAoSARGAhVOWEL SIGN AAtItUsEsItIsOsSHORT E",
   "yOsUtUsVOCALIC LzbLzaRzbRcONIAN SIGN CAPITAL ETnETaOILETbKYO TOWERbMATObNGUEbOLBOXcTHeBRUSHbP",
   " ARC ANTICLOCKWISE ARROWza WITH PLUShCLOCKWISE ARROW WITH MINUSdCURLY BRACKETdHALF BLACK CIRC",
   "LEiINTEGRALiLEFT PARENTHESISiRIGHT PARENTHESISiSECTION SIGNfTdLEFT CORNERjROPiHALF BRACKETdPA",
   "RENTHESISdRIGHT CORNERkROPjHALF BRACKETdSQUARE BRACKETdTORTOISE SHELL BRACKETdWITH UPWARDS AR",
   "ROW ABOVEbRTOISE SHELL BRACKETED CJK UNIFIED IDEOGRAPH-4E09zw8Czu52DDzvB89zu6253zv557zv72Czu7",
   "0B9zv6D7yLATIN CAPITAL LETTER SbTAL RUNOUTcO LETTER AmElBAmREATHY AEtEuOtIuUlCHAlDAlEmOlGAlHA",
   "lImUlJAlKAlLAlMAlNAmGAlOlPAlRAlSAlTAlUlWAlYAeSIGN RISING TONEaRACKBALLdTORcDE MARK SIGNcINcMd",
   " CARcNSPLUTOeVERSAL INTERSECTIONbIANGLE WITH DOT ABOVEnROUNDED CORNERSnSERIFS AT BOTTOMnUNDER",
   "BARh-HEADED RIGHTWARDS ARROWfULAR BULLETkFLAG ON POSTkRULERcCOLONcDENT EMBLEMcGRAM FOR EARTHl",
   "FIRElHEAVENlLAKElMOUNTAINlTHUNDERlWATERmINDcPLE COLON OPERATORgDAGGERgHORIZONTAL BAR WITH DOU",
   "BLE VERTICAL STROKEzaTRIPLE VERTICAL STROKEgINTEGRALgNESTED GREATER-THANnLESS-THANgPLUShRIMEg",
   "SOLIDUS BINARY RELATIONgTILDEgVERTICAL BAR BINARY RELATIONtDELIMITERtRIGHT TURNSTILEtWITH HOR",
   "IZONTAL STROKEbOLLeEYBUScPHYdICAL DRINKiFISHbUEd LIGHT MOON ARTAcMPETaUGRIK SIGNbLIPbMBLER GL",
   "ASSbRKEYdISH LIRA SIGNcNED AMPERSANDhNGLEgBLACK PENTAGONmSHOGI PIECEgCAPITAL FhOMMAgDAGGERhIG",
   "IT THREEnWOgGREEK SMALL LETTER IOTAgNORTH EAST POINTING LEAFmWEST POINTING LEAFiT SIGNgOK HAN",
   "D SIGNgSANS-SERIF CAPITAL GzLzYhEMICOLONhMALL FhOUTH EAST POINTING LEAFmWEST POINTING LEAFgWH",
   "ITE SHOGI PIECEcTLEaWELVE POINTED BLACK STARbISTED RIGHTWARDS ARROWSbO ASTERISKS ALIGNED VERT",
   "ICALLYdBUTTON MOUSEdCONSECUTIVE EQUALS SIGNSdDOT LEADERhPUNCTUATIONgS OVER ONE DOT PUNCTUATIO",
   "NdHEARTSdINTERSECTING LOGICAL ANDyORdJOINED SQUARESdLOGICAL AND OPERATORlOR OPERATORdMEN HOLD",
   "ING HANDSdSPEECH BUBBLESdWOMEN HOLDING HANDSc-EM DASH"]

/-- The page of the letter U. -/
def pageU : List String :=
  ["UGARITIC LETTER AINqLPApBETApDELTAqHALpGAMLAqHAINpHOrTApIpKAFqHApLAMDApMEMpNUNpPUpQOPApRASHAp",
   "SADErMKAqHINqSUpTETqHANNAqOpUpWOpYODpZETAqUiWORD DIVIDERaMBRELLAh ON GROUNDiWITH RAIN DROPSaN",
   "AMUSED FACEbCERTAINTY SIGNbDERTIEcO SYMBOLbICORN FACEcONe ABOVE BAR ABOVE INTERSECTIONlINTERS",
   "ECTIONfBESIDE AND JOINED WITH UNIONfWITH LOGICAL ORkMINUS SIGNkOVERBARcT SEPARATORdED SYMBOLc",
   "VERSAL RECYCLING SYMBOLbMARRIED PARTNERSHIP SYMBOLaP ARROW THROUGH CIRCLEhHEADl BETWEEN TWO H",
   "ORIZONTAL BARSmIN A RECTANGLE BOXcBARB LEFT DOWN BARB LEFT HARPOONwRIGHT HARPOONhRIGHT DOWN B",
   "ARB LEFT HARPOONxRIGHT HARPOONcDOWN ARROWm WITH BASEhBLACK ARROWhDOUBLE ARROWhSANS-SERIF ARRO",
   "WhTRIANGLE-HEADED ARROWhWHITE ARROWcFISH TAILcRIGHT DIAGONAL ELLIPSIScTACKg WITH CIRCLE ABOVE",
   "b-POINTING AIRPLANElMILITARY AIRPLANElRED TRIANGLElSMALL AIRPLANErRED TRIANGLElTRIANGLE WITH ",
   "LEFT HALF BLACKzRIGHT HALF BLACKbPER AND LEFT AND LOWER TRIANGULAR THREE QUARTERS BLOCKkOWER ",
   "ONE EIGHTH BLOCKpTRIANGULAR HALF BLOCKjRIGHT AND LOWER TRIANGULAR THREE QUARTERS BLOCKfBLADE ",
   "SCISSORSfFIVE EIGHTHS BLOCKfHALF BLOCKp AND LOWER HALF INVERSE MEDIUM SHADEkCIRCLEkINVERSE ME",
   "DIUM SHADE AND LOWER HALF BLOCKsWHITE CIRCLEkMEDIUM SHADEfLEFT BLOCK DIAGONAL LOWER CENTRE TO",
   " LOWER MIDDLE RIGHTzpUPPER MIDDLE RIGHTzvRIGHTzfLEFT TO LOWER MIDDLE RIGHTznUPPER CENTREztMID",
   "DLE RIGHTzfMIDDLE LEFT TO UPPER CENTREzzaMIDDLE RIGHTzzaRIGHTzUPPER MIDDLE LEFT TO UPPER CENT",
   "REzzaRIGHTkCORNER WITH DOTkOR LOWER RIGHT CURLY BRACKET SECTIONkQUADRANT CIRCULAR ARCkTO LOWE",
   "R RIGHT FILLlRIANGLEqULAR MEDIUM SHADEfONE EIGHTH BLOCKjQUARTER BLOCKfRIGHT BLOCK DIAGONAL LO",
   "WER MIDDLE LEFT TO LOWER CENTREzzbRIGHTzaUPPER CENTRE TO LOWER MIDDLE RIGHTzwRIGHTzqUPPER MID",
   "DLE RIGHTzgLEFT TO LOWER CENTREzuMIDDLE RIGHTzoUPPER MIDDLE RIGHTzgMIDDLE LEFT TO LOWER CENTR",
   "EzzbMIDDLE RIGHTzzbRIGHTlDROP-SHADOWED WHITE SQUARElOR LOWER LEFT CURLY BRACKET SECTIONlPENCI",
   "LlQUADRANT CIRCULAR ARClSHADOWED WHITE CIRCLEzaSQUARElTO LOWER LEFT FILLmRIANGLErULAR MEDIUM ",
   "SHADEfSEVEN EIGHTHS BLOCKfTHREE EIGHTHS BLOCKlQUARTERS BLOCKgRIANGULAR ONE QUARTER BLOCKbSIDE",
   "-DOWN FACEbWARDS ANCORAiRROWm AND RIGHT ONE EIGHTH BLOCKnFROM BARnLEFTWARDS OF DOWNWARDS ARRO",
   "WnTO BARnWITH DOUBLE STROKEsEQUILATERAL ARROWHEADsHORIZONTAL STROKEsLARGE TRIANGLE ARROWHEADs",
   "MEDIUM TRIANGLE ARROWHEADsNOTCHED TAILsSMALL EQUILATERAL ARROWHEADyTRIANGLE ARROWHEADsTIP LEF",
   "TWARDSwRIGHTWARDShBLACK ARROWnCIRCLED WHITE ARROWhCOMPRESSED ARROWhDASHED ARROWiOUBLE ARROWhF",
   "INGER-POST ARROWhHARPOON WITH BARB LEFT BESIDE DOWNWARDS HARPOON WITH BARB RIGHTzlUPWARDS HAR",
   "POON WITH BARB RIGHTzeFROM BARzeTO BARzdWARDSzRIGHT FROM BARzfTO BARzeWARDSiEAVY ARROWnCOMPRE",
   "SSED ARROWhPAIRED ARROWShQUADRUPLE ARROWhROCKEThSANS-SERIF ARROWiQUARED ARROWhTRIANGLE ARROWH",
   "EADp-HEADED ARROWzc LEFTWARDS OF DOWNWARDS TRIANGLE-HEADED ARROWzdTO BARzdWITH BOLD SHAFTziDO",
   "UBLE HORIZONTAL STROKEziHEAVY SHAFTziLONG TIP LEFTWARDSzrRIGHTWARDSziMEDIUM SHAFTziNARROW SHA",
   "FTziVERY HEAVY SHAFTxDASHED ARROWxPAIRED ARROWSkPLE ARROWiWO HEADED ARROWk-HEADED ARROW FROM ",
   "SMALL CIRCLEyWITH TRIANGLE ARROWHEADShWHITE ARROWs FROM BARzb WITH HORIZONTAL BARtON PEDESTAL",
   "ze WITH HORIZONTAL BARzkVERTICAL BARtWITHIN TRIANGLE ARROWHEADnDOUBLE ARROWz ON PEDESTALaRANU",
   "SaS"]

/-- The page of the letter V. -/
def pageV : List String :=
  ["VAI COMMAdDIGIT EIGHTjFIVEkOURjNINEjONEjSEVENkIXjTHREEkWOjZEROdFULL STOPdQUESTION MARKdSYLLAB",
   "LE AnNmBAnEoEnHAoEpEoIoOpOoUnInOoOnUmCAnEoEnInOoOnUmDAnEoEnHAoEpEoHApEqEpIpOqOpUoIoOpOoUnInOo",
   "OnUmEnEoNnNmFAnEoEnInOoOnUmGAnBAoEpEpNoIoOpNpOoUnEoEoNnInOoOnUmHAoNnEoEoNnIoNnOoNoOnUoNmInNmJ",
   "AnEoEnInOoOnUmKAoNnEoEnInOoOnPApNoEpEpNoIoOpOoUnUmLAnEoEoNGTHENERnInOoOnUmMAnBAoEpEoIoOpOoUnE",
   "oEnGBApEqEpIpOqOpUnInOoOnUmNAnDAoEpEoIoOpLE DOsFAsKAsMAsSOOpOoUnEoEnGoANoENoGApEqEqNpIpOqOpUo",
   "ONnInJAoEpEoIoOpOoUnOoOnUnYAoEpEoIoOpOoUmOnNnOoNmPAnEoEnInOoOnUmRAnEoEnInOoOnUmSAnEoEnHAoEpEo",
   "IoOpOoUnInOoOnUmTAnEoEnHAoEpEoIoOpOoUnInOoOnUmUnNmVAnEoEnInOoOnUmWAoNnEoEpNoNnIoNnOoNoOpNnUoN",
   "mYAnEoEnInOoOnUmZAnEoEnHAoEpEoIoOpOoUnInOoOnUfMBOL BANGkDANGlO-OmONGkFAAlEENGkJONGkKEENGlUNGk",
   "NIIkTAAlINGlONGbMPIREbRIATION SELECTOR-1t0u0u1u2u3u4u5u6u7u8u9t1u0u1u2u3u4u5u6u7u8u9t2u0u1u2u",
   "3u4u5u6u7u8u9t3u0u1u2u3u4u5u6u7u8u9t4u0u1u2u3u4u5u6u7u8u9t5u0u1u2u3u4u5u6u7u8u9t6u0u1u2u3u4u5",
   "u6u7u8u9t7u0u1u2u3u4u5u6u7u8u9t8u0u1u2u3u4u5u6u7u8u9t9u0u1u2u3u4u5u6u7u8u9s2t0u0u1u2u3u4u5u6u",
   "7u8u9t1u0u1u2u3u4u5u6u7u8u9t2u0u1u2u3u4u5u6u7u8u9t3u0u1u2u3u4u5u6u7u8u9t4u0u1u2u3u4u5u6u7u8u9",
   "t5u0u1u2u3u4u5u6t6t7t8t9s3t0t1t2t3t4t5t6t7t8t9s4t0t1t2t3t4t5t6t7t8t9s5t0t1t2t3t4t5t6t7t8t9s6t",
   "0t1t2t3t4t5t6t7t8t9s7t0t1t2t3t4t5t6t7t8t9s8t0t1t2t3t4t5t6t7t8t9s9t0t1t2t3t4t5t6t7t8t9aECTOR O",
   "R CROSS PRODUCTbDIC SIGN ANUSVARA ANTARGOMUKHAtBAHIRGOMUKHAtUBHAYATO MUKHAtVAMAGOMUKHAze WITH",
   " TAILlRDHAVISARGAlTIKRAMAkDOUBLE ANUSVARA ANTARGOMUKHAkHEXIFORM LONG ANUSVARAkJIHVAMULIYAkLON",
   "G ANUSVARAkNIHSHVASAkREVERSED VISARGA ANUDATTAzbUDATTAlOTATED ARDHAVISARGAlTHANG LONG ANUSVAR",
   "AkTIRYAKkUPADHMANIYAkVISARGA ANUDATTAza WITH TAILsSVARITAsUDATTAy WITH TAILkYAJURVEDIC MIDLIN",
   "E SVARITAfTONE ATHARVAVEDIC INDEPENDENT SVARITAkCANDRA ABOVErBELOWkDOT BELOWmUBLE RING ABOVEr",
   "SVARITAkKARSHANAmTHAKA ANUDATTAkPRENKHAkRIGVEDIC KASHMIRI INDEPENDENT SVARITAmNG ABOVEkSHARAk",
   "THREE DOTS BELOWlRIPLE SVARITAlWO DOTS BELOWkYAJURVEDIC AGGRAVATED INDEPENDENT SVARITAvINDEPE",
   "NDENT SVARITAvKATHAKA INDEPENDENT SVARITAzw SCHROEDERbRSICLEcTICAL BAR BESIDE RIGHT TRIANGLEm",
   "DOUBLE LEFT TURNSTILEmTRIPLE RIGHT TURNSTILEmWITH HORIZONTAL STROKEiELLIPSISiFOUR DOTSiIDEOGR",
   "APHIC ITERATION MARKiKANA REPEAT MARKy LOWER HALFzUPPER HALFuWITH VOICED SOUND MARKzq UPPER H",
   "ALFiLINEm EXTENSIONnWITH CIRCLE ABOVEzBELOWsMIDDLE DOTiMALE WITH STROKE SIGNiONE EIGHTH BLOCK",
   "-2z3z4z5z6z7iSIX DOTSiTAB KEYlULATIONs SETjILDEjRAFFIC LIGHTiZIGZAG LINEcY BOLD GREEK CROSSeH",
   "EAVY EIGHT POINTED BLACK STARqSPOKED ASTERISKkFIVE SPOKED ASTERISKkGREEK CROSSkREVERSE SOLIDU",
   "SkSALTIRElIX SPOKED ASTERISKlOLIDUSkWHITE CIRCLEqSQUAREeMUCH GREATER-THANjLESS-THANbSTAaIBRAT",
   "ION MODEbCTORY HANDbDEO CAMERAfGAMEeCASSETTEbETNAMESE ALTERNATE READING MARK CAzhNHAYcWDATA S",
   "QUAREbOLINbRGObTHKUQI CAPITAL LETTER AxBBEyExCEyHExDEyHExEyIxFExGAxHAyHAxIyJExJExKAxLAyLAxMEx",
   "NEyJExOxPExQAxRExSEyHExTEyHExUxVExXExYxZEiSMALL LETTER AvBBEwEvCEwHEvDEwHEvEwIvFEvGAvHAwHAvIw",
   "JEvJEvKAvLAwLAvMEvNEwJEvOvPEvQAvREvSEwHEvTEwHEvUvVEvXEvYvZEaOIDED GREEK CROSSbLCANOcLEYBALLcU",
   "ME INTEGRALaS1c0d0d1d2d3d4d5d6d7d8d9c1d0d1d2d3d4d5d6d7d8d9c2d0d1d2d3d4d5d6d7d8d9c3d0d1d2d3d4d",
   "5d6d7d8d9c4d0d1d2d3d4d5d6d7d8d9c5d0d1d2d3d4d5d6d7d8d9c6d0d1d2d3d4d5d6d7d8d9c7d0d1d2d3d4d5d6d7",
   "d8d9c8d0d1d2d3d4d5d6d7d8d9c9d0d1d2d3d4d5d6d7d8d9b2c0d0d1d2d3d4d5d6d7d8d9c1d0d1d2d3d4d5d6d7d8d",
   "9c2d0d1d2d3d4d5d6d7d8d9c3d0d1d2d3d4d5d6d7d8d9c4d0d1d2d3d4d5d6d7d8d9c5d0d1d2d3d4d5d6c6c7c8c9b3",
   "c0c1c2c3c4c5c6c7c8c9b4c0c1c2c3c4c5c6c7c8c9b5c0c1c2c3c4c5c6c7c8c9b6c0c1c2c3c4c5c6c7c8c9b7c0c1c",
   "2c3c4c5c6c7c8c9b8c0c1c2c3c4c5c6c7c8c9b9c0c1c2c3c4c5c6c7c8c9aTbSaULCANUScGAR FRACTION FIVE EIG",
   "HTHSuSIXTHSqOUR FIFTHSpONE EIGHTHtFIFTHtHALFtNINTHtQUARTERtSEVENTHuIXTHtTENTHuHIRDpSEVEN EIGH",
   "THSpTHREE EIGHTHSvFIFTHSvQUARTERSqWO FIFTHStTHIRDSpZERO THIRDS"]

/-- The page of the letter W. -/
def pageW : List String :=
  ["WAFFLEbNCHO DIGIT EIGHTmFIVEnOURmNINEmONEmSEVENnIXmTHREEnWOmZEROgLETTER AoApNqGoNGoUnBAnCAnDA",
   "nEoNnFAnGAnHAnIoNGnJAnKAoHAnLAoLHAnMAnNAoGAoYAnOoNpGnPAoHAnRAnSAoHAnTAoHAoRAoSAnUoENnVAnWAnYA",
   "oIHnZAgNGUN SIGNgTONE KOIoNIlTUPoNIcING CRESCENT MOON SYMBOLgGIBBOUS MOON SYMBOLbRANG CITI CA",
   "PITAL LETTER AzbMzbNGzbTzaBUzaDAzaEzbNNzcYzaGAzaHARzbIYOzbOLOzcRRzaIIzaKOzaNGAAzbUNGzaOzbDDza",
   "PUzaSIIzbSUUzaTTEzaUCzbUzaVIYOzaWIzaYAzbOzbUzcJlDIGIT EIGHTrFIVEsOURrNINErONErSEVENsIXrTHREEs",
   "WOrZEROlNUMBER EIGHTYsFIFTYtORTYsNINETYsSEVENTYtIXTYsTENtHIRTYtWENTYlOMlSMALL LETTER AzMzNGzT",
   "yBUyDAyEzNNzaYyGAyHARzIYOzOLOzaRRyIIyKOyNGAAzUNGyOzDDyPUySIIzSUUyTTEyUCzUyVIYOyWIyYAzOzUzaJcN",
   "ING SIGNbSTEBASKETbTCHcER BUFFALOfCLOSETfPOLOfWAVEeMELONbVE ARROW POINTING DIRECTLY LEFTzcRIG",
   "HTeDASHcING BLACK FLAGgHAND SIGNgWHITE FLAGcY DASHeLINEfOW LINEeOVERLINEbXING CRESCENT MOON S",
   "YMBOLgGIBBOUS MOON SYMBOLaEARY CAT FACEfFACEbDDINGcGE-TAILED RIGHTWARDS ARROWbIERSTRASS ELLIP",
   "TIC FUNCTIONcGHT LIFTERbST SYRIAC CROSSaHALEbEELe OF DHARMAeCHAIR SYMBOLbITE ARROW SHAFT WIDT",
   "H ONExTWO THIRDSfBULLETfCHESS BISHOPr ROTATED NINETY DEGREESzaTWO HUNDRED SEVENTY DEGREESlEQU",
   "IHOPPERv ROTATED NINETY DEGREESlKINGp ROTATED NINETY DEGREESyTWO HUNDRED SEVENTY DEGREESmNIGH",
   "Tr ROTATED FORTY-FIVE DEGREESzaNINETY DEGREESzaONE HUNDRED THIRTY-FIVE DEGREESzaTHREE HUNDRED",
   " FIFTEEN DEGREESzbWO HUNDRED SEVENTY DEGREESzmTWENTY-FIVE DEGREESr-BISHOPsQUEENsROOKlPAWNp RO",
   "TATED NINETY DEGREESyTWO HUNDRED SEVENTY DEGREESlQUEENq ROTATED NINETY DEGREESzTWO HUNDRED SE",
   "VENTY DEGREESlROOKp ROTATED NINETY DEGREESyTWO HUNDRED SEVENTY DEGREESlTURNED BISHOPsKINGtNIG",
   "HTsPAWNsQUEENsROOKgIRCLEl CONTAINING BLACK SMALL CIRCLEmWITH DOT RIGHTtWN ARROWrLOWER LEFT QU",
   "ADRANTxRIGHT QUADRANTrTWO DOTSrUPPER LEFT QUADRANTxRIGHT QUADRANTgLUB SUITgONCAVE-SIDED DIAMO",
   "NDza WITH LEFTWARDS TICKzgRIGHTWARDS TICKfDIAMONDm CONTAINING BLACK MEDIUM DIAMONDzeSMALL DIA",
   "MONDzeVERY SMALL DIAMONDnIN SQUAREnSUITnWITH CENTRED DOTgOWN POINTING BACKHAND INDEXtINDEXtLE",
   "FT HAND INDEXj-POINTING SMALL TRIANGLEtTRIANGLEgRAUGHTS KINGoMANfEXCLAMATION MARK ORNAMENTfFL",
   "AGj WITH HORIZONTAL MIDDLE BLACK STRIPEhORETTEiWERgOUR POINTED CUSPsSTARgROWNING FACEfHARD SH",
   "ELL FLOPPY DISKgEARTk SUITiVY CHECK MARKlSALTIRE WITH ROUNDED CORNERShXAGONgORIZONTAL ELLIPSE",
   "hURGLASSfLARGE SQUAREhTIN CROSSgEFT LANE MERGEkPOINTING BACKHAND INDEXtINDEXj-POINTING POINTE",
   "RtSMALL TRIANGLEtTRIANGLEgOZENGE CONTAINING BLACK SMALL LOZENGEfMEDIUM DIAMONDmLOZENGEmSMALL ",
   "SQUAREnQUAREnTARgOON SELENAfNIBfPARALLELOGRAMgENNANTiTAGONfQUESTION MARK ORNAMENTfRECTANGLEgI",
   "GHT POINTING BACKHAND INDEXuINDEXk-POINTING PENTAGONvOINTERuSMALL TRIANGLEuTRIANGLEfSCISSORSg",
   "ESAME DOTgHOGI PIECEgMALL LOZENGElSQUAREmTARhILING FACEgPADE SUITgQUAREl BUTTONmCONTAINING BL",
   "ACK MEDIUM SQUAREzdSMALL SQUAREzdVERY SMALL SQUAREmWITH CENTRE VERTICAL LINErLEFTWARDS TICKsO",
   "WER LEFT QUADRANTxRIGHT QUADRANTrRIGHTWARDS TICKsOUNDED CORNERSrUPPER LEFT QUADRANTxRIGHT QUA",
   "DRANTrVERTICAL BISECTING LINEgTARgUNi BEHIND CLOUDv WITH RAINjWITH RAYSoSMALL CLOUDfTELEPHONE",
   "gOUCHTONE TELEPHONEgRAPEZIUMhIANGLE CONTAINING SMALL WHITE TRIANGLEgWO-WAY LEFT WAY TRAFFICfU",
   "P POINTING BACKHAND INDEXrINDEXh-POINTING CHEVRONrSMALL TRIANGLErTRIANGLEz WITH DOTfVERTICAL ",
   "BARoELLIPSEoRECTANGLEiY SMALL SQUAREe-FEATHERED RIGHTWARDS ARROWaIDE-HEADED DOWNWARDS BARB AR",
   "ROWvHEAVY BARB ARROWvLIGHT BARB ARROWvMEDIUM BARB ARROWvVERY HEAVY BARB ARROWlLEFTWARDS BARB ",
   "ARROWvHEAVY BARB ARROWvLIGHT BARB ARROWvMEDIUM BARB ARROWvVERY HEAVY BARB ARROWlNORTH EAST BA",
   "RB ARROWwHEAVY BARB ARROWwLIGHT BARB ARROWwMEDIUM BARB ARROWwVERY HEAVY BARB ARROWrWEST BARB ",
   "ARROWwHEAVY BARB ARROWwLIGHT BARB ARROWwMEDIUM BARB ARROWwVERY HEAVY BARB ARROWlRIGHTWARDS BA",
   "RB ARROWwHEAVY BARB ARROWwLIGHT BARB ARROWwMEDIUM BARB ARROWwVERY HEAVY BARB ARROWlSOUTH EAST",
   " BARB ARROWwHEAVY BARB ARROWwLIGHT BARB ARROWwMEDIUM BARB ARROWwVERY HEAVY BARB ARROWrWEST BA",
   "RB ARROWwHEAVY BARB ARROWwLIGHT BARB ARROWwMEDIUM BARB ARROWwVERY HEAVY BARB ARROWlUPWARDS BA",
   "RB ARROWtHEAVY BARB ARROWtLIGHT BARB ARROWtMEDIUM BARB ARROWtVERY HEAVY BARB ARROWbGGLY VERTI",
   "CAL LINEbLTED FLOWERbND BLOWING FACEeCHIMEdOWcE GLASScKING FACEbRED KEYBOARDaJaOLF FACEbMANe ",
   "WITH BUNNY EARSeS BOOTSgCLOTHESgHATgSANDALcENS SYMBOLbN SIGNbODbRD JOINEReSEPARATOR MIDDLE DO",
   "TcLD MAPcMcRIED FACEaRAPPED PRESENTbEATH PRODUCTcNCHcSTLERSbITING HAND"]

/-- The page of the letter X. -/
def pageX : List String :=
  ["X IN A RECTANGLE BOXa-RAYaIANGQI BLACK CANNONoHARIOTnELEPHANTnGENERALnHORSEnMANDARINnSOLDIERh",
   "RED CANNONmHARIOTlELEPHANTlGENERALlHORSElMANDARINlSOLDIERaOR"]

/-- The page of the letter Y. -/
def pageY : List String :=
  ["YAWNING FACEaELLOW HEARTbN SIGNbZIDI COMBINING HAMZA MARKqMADDA MARKgHYPHENATION MARKgLETTER ",
   "BEnCHHIMpIMoIMnDADpLnELIFoToWoYNnFAnGAFnHAYoHAnJAnKAFoHAFnLAMq WITH DOT ABOVEnMIMnNUNnOWnPEoH",
   "EnQAFnRAoHAnSADoEoHINoINnTAoHEnUMnVAp ALTERNATE FORMnWAWnXAoHEYNnYOTq WITH CIRCUMFLEX ABOVEnZ",
   "ApLoEaI RADICAL BBUTlURkCHElIPlUOPlYmPmTkDDURlUkGAlEPlGOPmUOlOTkHMOlXITmOPmUOkJJIEmUTmYlOkKEl",
   "ITkLImElYRkMIlOPkNBIElYIPmOPlZUPkOPkPUTlYTkQOTkSHATmOPmURmYlSIkTATlUkVEPlURkWOkYITlOkZAlOTlUP",
   "mRlZIETcSYLLABLE AmPmTmXlBAnPnTnXmBAoPoToXnEoPoXnIoEpPpTpXoPoToXnOoPoToXnUoOpPpXoPoRpXoToXnYo",
   "PoToXmEnPnXmInEoPoToXnPnTnXmOnPnTnXmUnOoPoXnPnRoXnTnXmYnPnRoXnTnXlCAnPnTnXmEnPnXmHAoPoToXnEoP",
   "oToXnOoPoToXnUoOpPpTpXoPoRpXoXnYoPoRpXoToXmInEoPoToXnPnTnXmOnPnTnXmUnOoPoXnPnRoXnTnXmYnPnRoXn",
   "TnXlDAnPnTnXmDAoPoToXnEoPoXnIoEpPpXoPoToXnOoPoToXnUoOpPpXoPoRpXoToXmEnPnXmInEoPoXnPnTnXmOnPnT",
   "nXmUnOoXnPnRoXnTnXlEmXlFAnPnTnXmInPnTnXmOnPnXmUnPnRoXnTnXmYnPnTnXlGAnPnTnXmEnPnTnXmGAoPoToXnE",
   "oPoToXnIoEpPpXoToXnOoPoToXnUoOpPpTpXoPoRpXoToXmInEoPoToXnPnTnXmOnPnTnXmUnOoPoToXnPnRoXnTnXlHA",
   "nPnTnXmEnPnXmIEoXnTmLAoPoToXnEoPoXnIoEpPpXoPoToXnOoPoXnUoOpPpXoPoRpXoToXnYoPoRpXoToXmMAoPoToX",
   "nIoEpPpXoPoToXnOoPoToXnUoOpPpXoPoRpXoToXnYoPoRpXoXmNAoPoToXnEoPoXnIoEpPpTpXoPoToXnOPoToXnUOpX",
   "oTmOnPnTnXmUOoPoToXmXAoPoToXnEoPoXnIoEpPpTpXoPoToXnOoPoToXnUOpPpTpXlImEnPnTnXmPmTnERATION MAR",
   "KmXlJInEoPoToXnPnTnXmJIoEpPpTpXoPoToXnOoPoToXnUoOpPpXoPoRpXoToXnYoPoToXmOnPnTnXmUnOoPoToXnPnR",
   "oXnTnXmYnPnRoXnTnXlKAnPnTnXmEnPnTnXmInEoPoXnPnTnXmOnPnTnXmUnOoPoXnPnRoXnTnXlLAnPnTnXmEnPnXmIn",
   "EoPoToXnPnTnXmOnPnTnXmUnOoPoToXnPnRoXnTnXmYnPnRoXnTnXlMAnPnTnXmEnXmGAoPoToXnEoPoXnIEpXnOoPoTo",
   "XnUoOpPpXoPoRpXoToXmInEoPoXnPnTnXmOnPnTnXmUnOoPoToXnPnRoXnTnXmYnPnTnXlNAnPnXmBAoPoToXnIoEpPpX",
   "oPoToXnOoPoToXnUoPoRpXoToXnYoPoRpXoToXmDAoPoToXnEoPoXnIoEpXoPoToXnOoPoToXnUoPoRpXoToXmEnPnXmG",
   "AoPoToXnEoPoXnIEpPpXnOoPoToXnUOpTpXmInEoPoXnPnTnXmJIoEpPpTpXoPoToXnOoPoToXnUoOpXoPoRpXoXnYoPo",
   "RpXoToXmOnPnTnXmRAoPoToXnEoPoToXnOoPoXnUoPoRpXoToXnYoPoRpXoToXmUnOoPoXnPnRoXnTnXmYIoEpPpTpXoP",
   "oToXnOoPoToXnUoOpPpXoPoToXmZAoPoToXnEoXnIoEpPpXoPoToXnOPoXnUoOpXoPoRpXoXnYoPoRpXoToXlOmPmTmXl",
   "PAnPnTnXmInEoPoXnPnTnXmOnPnTnXmUnOoPoXnPnRoXnTnXmYnPnRoXnTnXlQInEoPoToXnPnTnXmOnPnTnXmUnOoPoT",
   "oXnPnRoXnTnXmYnPnRoXnTnXlRAnPnTnXmEnPnXmOnPnTnXmRAoXnEoPoToXnOoPoToXnUoOpXoPoRpXoToXnYoPoRpXo",
   "ToXmUnOoPoXnPnRoXnTnXmYnPnRoXnTnXlSAnPnTnXmEnPnXmHAoPoToXnEoPoToXnOoPoToXnUoOpPpXoPoRpXoToXnY",
   "oPoRpXoToXmInEoPoXnPnTnXmOnPnTnXmSAoPoToXnEoPoXnIoEpPpXoPoToXnOoPoToXnUoPoToXnYoPoRpXoToXmUnO",
   "oPoXnPnRoXnTnXmYnPnRoXnTnXlTAnPnTnXmEnPnXmInEoPoXnPnTnXmOnPnTnXmUnOoPoToXnPnRoXnTnXlUOnPnXlVA",
   "nPnTnXmEPnXmInEoPoToXnPnTnXmOnPnTnXmUnPnRoXnTnXmYnPnRoXnTnXlWAnPnTnXmEnPnXmOnPnXmUnOoPoXlXInE",
   "oPoToXnPnTnXmOnPnTnXmUOoXmYnPnRoXnTnXlYInEoPoToXnPnTnXmOnPnTnXmUnOoPoToXnPnRoXnTnXmYnPnRoXnTn",
   "XlZAnPnTnXmEnPnXmHAoPoToXnEoPoToXnOoPoToXnUoOpPpXoPoRpXoToXnYoPoRpXoToXmInEoPoXnPnTnXmOnPnTnX",
   "mUnOoPoXnPnRoXnTnXmYnPnRoXnTnXmZAoPoToXnEoPoXnIoEpPpTpXoPoToXnOoPoXnUoPoRpXoXnYoPoRpXoToXbN Y",
   "ANGaO-YO"]

/-- The page of the letter Z. -/
def pageZ : List String :=
  ["Z NOTATION BAG MEMBERSHIPkDOMAIN ANTIRESTRICTIONkLEFT BINDING BRACKETpIMAGE BRACKETkRANGE ANT",
   "IRESTRICTIONlELATIONAL COMPOSITIONlIGHT BINDING BRACKETqIMAGE BRACKETkSCHEMA COMPOSITIONrPIPI",
   "NGsROJECTIONlPOTkTYPE COLONaANABAZAR SQUARE CLOSING DOUBLE-LINED HEAD MARKyHEAD MARKsUSTER-FI",
   "NAL LETTER LAzlRAzlVAzlYAyINITIAL LETTER RAqFINAL CONSONANT MARKqINITIAL DOUBLE-LINED HEAD MA",
   "RKyHEAD MARKqLETTER -AxAxBAyHAxCAyHAxDAyDAzHAyHAyZAzHAxGAyHAxHAxJAxKAyHAySSAxLAxMAxNAyGAyNAyY",
   "AxPAyHAxRAxSAyHAySAxTAyHAySAzHAyTAzHAxVAxYAxZAyHAqMARK DOUBLE SHADvLONG TSHEGvSHADvTSHEGqSIGN",
   " ANUSVARAvCANDRA WITH ORNAMENTzbBINDUzg WITH ORNAMENTvVIRAMAxSARGArUBJOINERqVOWEL LENGTH MARK",
   "wSIGN AIzcUzbEzbIzbOzcEzbREVERSED IzbUzcEaEBRA FACEbRO WIDTH JOINERkNO-BREAK SPACEmN-JOINERkS",
   "PACEbUSaIPPER-MOUTH FACEaNAMENNY COMBINING ATTACHING VERTICAL OMETsLOWER TONAL RANGE INDICATO",
   "RsMARK BORZAYAxCHASHKAze POLNAYAyURVED OMETxDEMESTVENNY ZADERZHKAyVOETOCHIExGORAZDO NIZKO ON ",
   "LEFTzoRIGHTzlS KRYZHEM ON LEFTzyRIGHTzfVYSOKOxKACHKAyRYZHzc ON LEFTyUPNAYAxLOMKAxMALO POVYSHE",
   " ON LEFTznRIGHTzkS KHOKHLOM ON LEFTzyRIGHTznRYZHEMzlTRANNOxNIZKO ON LEFTzgRIGHTzdS KRYZHEM ON",
   " LEFTzqRIGHTxOBLACHKOyNyTSECHKAxPODCHASHIEzh WITH VERTICAL STROKEzaVERTKAzVYSHE ON LEFTziRIGH",
   "TzfS KHOKHLOM ON LEFTztRIGHTziRYZHEMzgTRANNOxRAVNOzZSEKAxSKOBAyOROCHYA NOZHKAyREDNE ON LEFTzh",
   "RIGHTyTRANNO MALO POVYSHExTIKHAYAyOCHKAySATA ON LEFTzgRIGHTzdS KRYZHEMxUDARKAxVYSOKO ON LEFTz",
   "hRIGHTzeS KHOKHLOM ON LEFTzsRIGHTzhRYZHEMxZADERZHKAyELOzVOKsTONAL RANGE MARK MRACHNOzjSVETLOz",
   "jTRESVETLOiNEUME CHASHKAqELYUSTKAoDEMESTVENNY KLYUCHqRBITSApOUBLE ZAPYATAYApUDApVA V CHELNUoF",
   "ITAoGOLUBCHIK BORZYyMRACHNYySVETLYyTIKHYzRESVETLYoKHAMILOpLYUCHpOBYLApRYUKt TIKHYrZHpUFISMAoM",
   "ECHIKu KLYUCHENEPOSTOYANNYzcPOVODNYzcVOYvPOVODNYoNEMKAoOBLAKOpSOKAt KLYUCHEVAYA NEPOSTOYANNAY",
   "AzgSVETLAYAvRYUKOVAYA SVETLAYAuSVETLAYAuTRESVETLAYAoPALKAqRAKLITqUKpEREVODKAx NEPOSTOYANNAYAp",
   "ODCHASHIEqLKULIZMYoREVERSED CHELYUSTKApOGoSKAMEYTSA DVOECHELNAYA KLYUCHEVAYAzlNEPOSTOYANNAYAz",
   "lPROSTAYAzlSVETLAYAyKLYUCHENEPOSTOYANNAYAzfVAYA SVETLAYAzkTIKHAYAyMRACHNAYAySVETLAYAyTIKHAYAz",
   "RESVETLAYApLOZHITIEx S KRYZHEMzaZAPYATOYyZAKRYTOEpTATYAu NEPOSTOYANNAYAvS DVUMYA ZAPYATYMIxKR",
   "YZHEMze I ZAPYATOYxROGOMxZAPYATOYzf I KRYZHEMziPODCHASHIEMvZAKRYTAYAze S ZAPYATOYqOPITSAw S O",
   "CHKOMxWITH SOROCHYA NOZHKAqRELA DVOECHELNAYAzh KLYUCHEVAYAzeOKRYZHEVAYAzfPOVODNAYAzo KLYUCHEV",
   "AYAvGROMNAYAzd WITH SINGLE ZAPYATAYAzOKRYZHEVAYAzk POVODNAYAzaPOVODNAYAzj WITH DOUBLE ZAPYATA",
   "YAzpSINGLE ZAPYATAYAvKLYUCHENEPOSTOYANNAYAzcPOVODNAYAwRYUKOVAYAzf GROMNAYAzo WITH SINGLE ZAPY",
   "ATAYAzkOKRYZHEVAYAzv POVODNAYAzlPOVODNAYAzu WITH DOUBLE ZAPYATAYAzzaSINGLE ZAPYATAYAzgPOVODNA",
   "YAzgTRYASKAyZHEVAYAvMRACHNOTIKHAYAvNEPOSTOYANNAYAvPOLUPOVODNAYAxVODNAYAwROSTAYAvTIKHAYA PUTNA",
   "YAwRYASOGLASNAYAzbPOVODNAYAzbSTRELNAYAoVRAKHIYA KLYUCHEVAYA MRACHNAYAzjPROSTAYAzjSVETLAYAzjTR",
   "ESVETLAYAxMRACHNAYAxPROSTAYAxSVETLAYAxTRESVETLAYAoZANOZHEKqPYATAYApMEYTSAiPRIZNAK MODIFIER DI",
   "RECTION FLIPzKRYZHzLEVEL-2zf3zROGaOMBIEaWJbNBSPcJbSP"]

end Gloss.Text.CharName
